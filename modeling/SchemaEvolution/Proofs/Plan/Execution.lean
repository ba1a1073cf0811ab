import SchemaEvolution.Proofs.Plan.TableExecution

/-! # Executing a plan
A plan is sound: run strictly on the tables of the old schema, no step is stuck, and the store ends
up with exactly the tables of the new schema. After each phase the store is known as a function of
the name: renames leave every table that stays under its new name, the changes make it what the new
schema declares, creations add what is missing, and drops remove what is left over. -/

namespace SchemaEvolution

variable {matching : Matching} {old new : Schema}

/-! ## The store between the phases -/

namespace Store

/-- The store **after the renames**: a table stands under the name that it has at the end, or under
its old name if it is dropped. -/
def afterRenames (matching : Matching) (old : Schema) : Store := fun name =>
  if name ∈ matching.renamedSources then none
  else (formerColumns? matching old name).map TableState.ofColumns

/-- The store **after the changes**: the tables that stay are as the new schema declares them. -/
def afterChanges (matching : Matching) (old new : Schema) : Store := fun name =>
  (if (formerColumns? matching old name).isSome then ofSchema new name else none).or
    (afterRenames matching old name)

/-- The store **after the creations**: all tables of the new schema are there, and those that are to
be dropped. -/
def afterCreations (matching : Matching) (old new : Schema) : Store := fun name =>
  (ofSchema new name).or (afterRenames matching old name)

end Store

/-! ## Renames -/

namespace Store

/-- A store after the renames of a list of pairs of an old and a new name. -/
def rename (pairs : List (String × String)) (store : Store) : Store := fun name =>
  match (pairs.find? fun pair => pair.2 == name).map Prod.fst with
  | some source => store source
  | none => if name ∈ pairs.map Prod.fst then none else store name

/-- Pairs of an old and a new name **can be renamed** when no name stands twice on a side, the old
names hold tables, and the new names are free. -/
structure Renamable (pairs : List (String × String)) (store : Store) : Prop where
  /-- No table is renamed twice. -/
  sources_nodup : (pairs.map Prod.fst).Nodup
  /-- No name is given twice. -/
  targets_nodup : (pairs.map Prod.snd).Nodup
  /-- The tables to rename are there. -/
  stored : ∀ source ∈ pairs.map Prod.fst, (store source).isSome = true
  /-- The names to give are free. -/
  free : ∀ target ∈ pairs.map Prod.snd, store target = none

namespace Renamable

variable {source target : String} {rest : List (String × String)} {store : Store}

/-- Old names hold tables and new names do not, so they never meet. -/
theorem source_ne_target {pairs : List (String × String)} (h : Renamable pairs store)
    (hsource : source ∈ pairs.map Prod.fst) (htarget : target ∈ pairs.map Prod.snd) :
    source ≠ target := by
  intro e
  have hstored := h.stored source hsource
  rw [e, h.free target htarget] at hstored
  cases hstored

/-- After the first rename the rest can be renamed. -/
theorem rest_of_cons (h : Renamable ((source, target) :: rest) store) (table : TableState) :
    Renamable rest (Function.update (Function.update store source none) target (some table)) where
  sources_nodup := (List.nodup_cons.mp h.sources_nodup).2
  targets_nodup := (List.nodup_cons.mp h.targets_nodup).2
  stored other hother := by
    have hne : other ≠ source := fun e => (List.nodup_cons.mp h.sources_nodup).1 (e ▸ hother)
    have hmeet : other ≠ target :=
      h.source_ne_target (List.mem_cons_of_mem _ hother) List.mem_cons_self
    rw [Function.update_of_ne hmeet, Function.update_of_ne hne]
    exact h.stored other (List.mem_cons_of_mem _ hother)
  free other hother := by
    have hne : other ≠ target := fun e => (List.nodup_cons.mp h.targets_nodup).1 (e ▸ hother)
    have hmeet : other ≠ source :=
      (h.source_ne_target List.mem_cons_self (List.mem_cons_of_mem _ hother)).symm
    rw [Function.update_of_ne hne, Function.update_of_ne hmeet]
    exact h.free other (List.mem_cons_of_mem _ hother)

/-- The first rename and then the rest are all renames. -/
theorem rename_rest (h : Renamable ((source, target) :: rest) store) {table : TableState}
    (htable : store source = some table) :
    rename rest (Function.update (Function.update store source none) target (some table)) =
      rename ((source, target) :: rest) store := by
  funext name
  unfold rename
  by_cases htarget : target = name
  · -- the name is the one given first: the rest neither gives it again nor takes it away
    subst htarget
    have hfind : rest.find? (fun pair => pair.2 == target) = none := by
      rw [List.find?_eq_none]
      intro pair hpair
      have hmem : pair.2 ∈ rest.map Prod.snd := List.mem_map_of_mem hpair
      rw [beq_iff_eq]
      exact fun e => (List.nodup_cons.mp h.targets_nodup).1 (e ▸ hmem)
    have hsource : target ∉ rest.map Prod.fst := fun hmem =>
      h.source_ne_target (List.mem_cons_of_mem _ hmem) List.mem_cons_self rfl
    simp [hfind, hsource, htable]
  · rw [List.find?_cons_of_neg (by simpa using htarget)]
    cases hfind : rest.find? fun pair => pair.2 == name with
    | some pair =>
      -- the name is given later, to a table that the first rename leaves alone
      have hpair : pair.1 ∈ rest.map Prod.fst :=
        List.mem_map_of_mem (List.mem_of_find?_eq_some hfind)
      have hne : pair.1 ≠ source := fun e => (List.nodup_cons.mp h.sources_nodup).1 (e ▸ hpair)
      have hmeet : pair.1 ≠ target :=
        h.source_ne_target (List.mem_cons_of_mem _ hpair) List.mem_cons_self
      simp [Function.update_of_ne hmeet, Function.update_of_ne hne]
    | none =>
      -- the name is not given at all: it is either taken away first, or as in the rest
      by_cases hsource : name = source
      · subst hsource
        simp [Function.update_of_ne (Ne.symm htarget)]
      · have hrest : name ∈ ((source, target) :: rest).map Prod.fst ↔ name ∈ rest.map Prod.fst :=
          List.mem_cons.trans (or_iff_right hsource)
        simp only [Option.map_none, hrest, Function.update_of_ne (Ne.symm htarget),
          Function.update_of_ne hsource]

end Renamable

/-- Tables that can be renamed are renamed one after the other. -/
theorem run_renames {pairs : List (String × String)} {store : Store} (h : Renamable pairs store) :
    store.run (pairs.map fun pair => .renameTable pair.1 pair.2) = some (rename pairs store) := by
  induction pairs generalizing store with
  | nil => rfl
  | cons pair rest ih =>
    obtain ⟨source, target⟩ := pair
    obtain ⟨table, htable⟩ := Option.isSome_iff_exists.mp (h.stored source List.mem_cons_self)
    have hnext : store.execute (.renameTable source target) =
        some (Function.update (Function.update store source none) target (some table)) := by
      simp [execute, renameTable, htable, h.free target List.mem_cons_self]
    rw [List.map_cons, run_cons, hnext, Option.bind_some, ih (h.rest_of_cons table),
      h.rename_rest htable]

end Store

/-- The second phase leaves every table under the name that it keeps. -/
theorem run_renameSteps (hfits : matching.Fits old new) :
    (Store.ofSchema old).run (renameSteps matching) = some (Store.afterRenames matching old) := by
  -- renames need their sources to be stored and their targets to be free
  have hrenamable : Store.Renamable matching.renames (Store.ofSchema old) :=
    { sources_nodup := hfits.sources_nodup
      targets_nodup := hfits.targets_nodup
      stored := fun source hsource => by
        rw [Option.isSome_iff_ne_none, Ne, Store.ofSchema_eq_none_iff, not_not]
        exact (hfits.source_lost source hsource).1
      free := fun target htarget => by
        rw [Store.ofSchema_eq_none_iff]
        exact (hfits.target_gained target htarget).2 }
  rw [renameSteps, Store.run_renames hrenamable]
  congr 1
  funext name
  change (match matching.renamedFrom? name with
    | some source => Store.ofSchema old source
    | none => if name ∈ matching.renamedSources then none else Store.ofSchema old name) = _
  unfold Store.afterRenames formerColumns?
  -- a name is the target of a rename, or it keeps or loses its own table
  cases hfrom : matching.renamedFrom? name with
  | none => rfl
  | some source =>
    have htarget : name ∈ matching.renamedTargets :=
      List.mem_map_of_mem (Matching.mem_renames_of_renamedFrom? hfrom)
    exact (if_neg (hfits.not_renamed_of_mem (hfits.target_gained name htarget).1)).symm

/-! ## Tables that stay -/

/-- The tables that stay become what the new schema declares, one after the other. -/
theorem run_keptSteps {tables : List NamedTable} (hnodup : (tables.map Prod.fst).Nodup)
    (hnew : ∀ table ∈ tables, Column.Distinct table.2) (store : Store)
    (hstore : ∀ table ∈ tables, ∀ former, formerColumns? matching old table.1 = some former →
      Column.Distinct former ∧ store table.1 = some (TableState.ofColumns former)) :
    store.run (tables.flatMap (keptSteps matching old)) =
      some (overlay (fun name => (formerColumns? matching old name).isSome)
        (Store.ofTables tables) store) := by
  induction tables generalizing store with
  | nil => rw [Store.ofTables_nil, overlay_none, List.flatMap_nil, Store.run_nil]
  | cons table rest ih =>
    simp only [List.map_cons, List.nodup_cons, List.forall_mem_cons] at hnodup hnew hstore
    rw [List.flatMap_cons, Store.ofTables_cons]
    cases hformer : formerColumns? matching old table.1 with
    | none =>
      -- a table that comes or is new under its name is not changed here
      rw [keptSteps, hformer, List.nil_append, ih hnodup.2 hnew.2 store hstore.2,
        overlay_update_of_not_chosen (by rw [hformer, Option.isSome_none])]
    | some former =>
      obtain ⟨hdistinct, htable⟩ := hstore.1 former hformer
      have hfirst := turns_columnSteps table.1 hdistinct hnew.1 store htable
      have hfree := (Store.ofTables_eq_none_iff rest table.1).mpr hnodup.1
      rw [keptSteps, hformer, Store.run_append_of_run hfirst, ih hnodup.2 hnew.2,
        overlay_update_of_chosen (by rw [hformer, Option.isSome_some]) hfree]
      -- the steps for the first table leave the other tables as they were
      intro other hother former' hformer'
      have hne : other.1 ≠ table.1 := fun e => hnodup.1 (e ▸ List.mem_map_of_mem hother)
      rw [Function.update_of_ne hne]
      exact hstore.2 other hother former' hformer'

/-! ## Tables that come -/

/-- A table is created under a free name and filled from the table that it replaces, which is still
there. -/
theorem run_tableCreation (table : NamedTable) (store : Store) (hfree : store table.1 = none)
    (hreplaced : ∀ source former, matching.replacedBy? table.1 = some source →
      old.tables.get? source = some former → store source = some (TableState.ofColumns former)) :
    store.run (tableCreation matching old table) =
      some (Function.update store table.1 (some (TableState.ofColumns table.2))) := by
  have hcreate : store.execute (.createTable table.1 table.2) =
      some (Function.update store table.1 (some (TableState.ofColumns table.2))) := by
    simp [Store.execute, Store.createTable, hfree]
  rw [tableCreation, Store.run_cons, hcreate, Option.bind_some]
  cases hreplacedBy : matching.replacedBy? table.1 with
  | none => rfl
  | some source =>
    cases hformer : old.tables.get? source with
    | none => simp [hformer]
    | some former =>
      -- the source is there and the target was free, so the source outlives the creation
      have hsource := hreplaced source former hreplacedBy hformer
      have hne : source ≠ table.1 := fun e => by
        rw [e, hfree] at hsource
        cases hsource
      -- the columns to copy are declared on both sides
      have hshared : ((sharedColumnNames former table.2).all fun column =>
          (TableState.ofColumns former).has column && (TableState.ofColumns table.2).has column) =
          true := by
        rw [List.all_eq_true]
        intro name hname
        obtain ⟨column, hcolumn, rfl⟩ := List.mem_map.mp hname
        obtain ⟨hmem, hdeclared⟩ := List.mem_filter.mp hcolumn
        rw [TableState.has_ofColumns, TableState.has_ofColumns, hdeclared, Bool.true_and,
          Column.declares_iff]
        exact List.mem_map_of_mem hmem
      simp only [hformer, copyHint]
      split
      · rfl
      · simp only [Store.run_cons, Store.run_nil, Store.execute, Store.copyData, Option.bind_some,
          Option.bind_eq_bind, Function.update_of_ne hne, hsource, Function.update_self, hshared,
          if_true]
        rfl

/-- The tables that come are created one after the other. -/
theorem run_tableCreations {tables : List NamedTable} (hnodup : (tables.map Prod.fst).Nodup)
    (store : Store) (hfree : ∀ table ∈ tables, store table.1 = none)
    (hreplaced : ∀ table ∈ tables, ∀ source former, matching.replacedBy? table.1 = some source →
      old.tables.get? source = some former → store source = some (TableState.ofColumns former)) :
    store.run (tables.flatMap (tableCreation matching old)) =
      some (overlay (fun _ => true) (Store.ofTables tables) store) := by
  induction tables generalizing store with
  | nil => rw [Store.ofTables_nil, overlay_none, List.flatMap_nil, Store.run_nil]
  | cons table rest ih =>
    simp only [List.map_cons, List.nodup_cons, List.forall_mem_cons] at hnodup hfree hreplaced
    have hfirst := run_tableCreation table store hfree.1 hreplaced.1
    rw [List.flatMap_cons, Store.run_append_of_run hfirst, ih hnodup.2, Store.ofTables_cons,
      overlay_update_of_chosen rfl ((Store.ofTables_eq_none_iff rest table.1).mpr hnodup.1)]
    · -- the other names are still free
      intro other hother
      have hne : other.1 ≠ table.1 := fun e => hnodup.1 (e ▸ List.mem_map_of_mem hother)
      rw [Function.update_of_ne hne]
      exact hfree.2 other hother
    · -- a table that is replaced was there, so the created one does not stand in its place
      intro other hother source former hreplacedBy hformer
      have hsource := hreplaced.2 other hother source former hreplacedBy hformer
      have hne : source ≠ table.1 := fun e => by
        rw [e, hfree.1] at hsource
        cases hsource
      rw [Function.update_of_ne hne]
      exact hsource

/-! ## Tables that go -/

/-- Tables that are there are dropped one after the other. -/
theorem run_tableDrops {names : List String} (hnodup : names.Nodup) (store : Store)
    (hstored : ∀ name ∈ names, (store name).isSome = true) :
    store.run (names.flatMap tableDrop) = some fun name =>
      if name ∈ names then none else store name := by
  induction names generalizing store with
  | nil => simp
  | cons name rest ih =>
    simp only [List.nodup_cons, List.forall_mem_cons] at hnodup hstored
    have hdrop : store.run (tableDrop name) = some (Function.update store name none) := by
      simp [tableDrop, Store.run_cons, Store.execute, Store.dropTable, hstored.1]
    rw [List.flatMap_cons, Store.run_append_of_run hdrop, ih hnodup.2]
    · congr 1
      funext other
      by_cases hother : other = name
      · subst hother
        simp
      · simp [hother]
    · -- the other tables to drop are still there
      intro other hother
      have hne : other ≠ name := fun e => hnodup.1 (e ▸ hother)
      rw [Function.update_of_ne hne]
      exact hstored.2 other hother

/-! ## All phases -/

/-- The phases about types leave the store alone. -/
theorem inert_of_mem_typeChanges {types : List (String × TypeDefinition)} {step : Step}
    (h : step ∈ typeChanges old.types types) : Store.Inert step := by
  rcases shape_of_mem_typeChanges h with ⟨text, rfl⟩ | ⟨name, value, rfl⟩ <;> exact fun _ => rfl

/-- Creations of types do nothing to tables. -/
theorem inert_of_mem_typeCreations {step : Step} (h : step ∈ typeCreations old new) :
    Store.Inert step := by
  obtain ⟨name, values, rfl⟩ := shape_of_mem_typeCreations h
  exact fun _ => rfl

/-- The third phase makes the tables that stay what they are to be. -/
theorem run_keptPhase (hfits : matching.Fits old new) (hold : old.ColumnsDistinct)
    (hnew : new.ColumnsDistinct) :
    (Store.afterRenames matching old).run (new.tables.entries.flatMap (keptSteps matching old)) =
      some (Store.afterChanges matching old new) := by
  refine run_keptSteps new.tables.nodup_names hnew _ fun table htable former hformer => ?_
  refine ⟨hold.of_get? hformer, ?_⟩
  rw [Store.afterRenames, if_neg (hfits.not_renamed_of_mem (Catalog.mem_names_of_mem htable)),
    hformer, Option.map_some]

/-- A table that is replaced is still there after the changes. -/
theorem Matching.Fits.afterChanges_of_replaced (hfits : matching.Fits old new)
    {pair : String × String} (hpair : pair ∈ matching.replacements) :
    Store.afterChanges matching old new pair.1 = Store.ofSchema old pair.1 := by
  obtain ⟨hlost, hgone, hnot⟩ := hfits.replaced_lost pair hpair
  rw [Store.afterChanges, (Store.ofSchema_eq_none_iff new pair.1).mpr hgone, ite_self,
    Option.none_or, Store.afterRenames, if_neg hnot, hfits.formerColumns?_of_mem hlost]
  rfl

/-- The fifth phase adds the tables that are missing. -/
theorem run_creationPhase (hfits : matching.Fits old new) :
    (Store.afterChanges matching old new).run (tableCreations matching old new) =
      some (Store.afterCreations matching old new) := by
  rw [tableCreations, run_tableCreations]
  · congr 1
    funext name
    rw [overlay, Store.ofTables, Store.afterChanges, Store.afterCreations, if_pos rfl,
      Catalog.lookup_filter (fun name => (formerColumns? matching old name).isNone)]
    -- what did not stay is listed for creation, what stayed was made new before
    cases formerColumns? matching old name with
    | none => rfl
    | some former => simp
  · exact new.tables.nodup_names.sublist (List.filter_sublist.map Prod.fst)
  · intro table htable
    obtain ⟨-, hnone⟩ := List.mem_filter.mp htable
    rw [Option.isNone_iff_eq_none] at hnone
    simp [Store.afterChanges, Store.afterRenames, hnone]
  · intro table htable source former hreplaced hformer
    rw [hfits.afterChanges_of_replaced (Matching.mem_replacements_of_replacedBy? hreplaced),
      Store.ofSchema, hformer, Option.map_some]

/-- The last phase removes what is left over. -/
theorem run_dropPhase (hfits : matching.Fits old new) :
    (Store.afterCreations matching old new).run (tableDrops matching old new) =
      some (Store.ofSchema new) := by
  rw [tableDrops, run_tableDrops (old.tables.nodup.filter _)]
  · congr 1
    funext name
    simp only [Matching.mem_dropped_iff, Store.afterCreations]
    by_cases hnew : name ∈ new.tables.names
    · obtain ⟨columns, hcolumns⟩ := (new.tables.exists_get?_iff name).mpr hnew
      simp [Store.ofSchema, hcolumns, hnew]
    · -- nothing is left under an old name: it was renamed away or is dropped now
      rw [(Store.ofSchema_eq_none_iff new name).mpr hnew, Option.none_or, Store.afterRenames]
      by_cases hold : name ∈ old.tables.names
      · by_cases hsource : name ∈ matching.renamedSources <;> simp [hold, hnew, hsource]
      · have hnone : formerColumns? matching old name = none :=
          (hfits.formerColumns?_eq_none_iff name).mpr
            ⟨hold, fun ht => hnew (hfits.target_gained name ht).1⟩
        simp [hold, hnone]
  · intro name hname
    obtain ⟨hold, hnew, hsource⟩ := (Matching.mem_dropped_iff name).mp hname
    obtain ⟨columns, hcolumns⟩ := (old.tables.exists_get?_iff name).mpr hold
    rw [Store.afterCreations, (Store.ofSchema_eq_none_iff new name).mpr hnew, Option.none_or,
      Store.afterRenames, if_neg hsource, hfits.formerColumns?_of_mem hold, hcolumns]
    rfl

/-- **The phases turn the old tables into the new ones.** -/
theorem run_planSteps (hfits : matching.Fits old new) (hold : old.ColumnsDistinct)
    (hnew : new.ColumnsDistinct) :
    (Store.ofSchema old).run (planSteps matching old new) = some (Store.ofSchema new) := by
  have htypes : (Store.ofSchema old).run (typeChanges old.types new.types.entries) =
      some (Store.ofSchema old) :=
    Store.run_of_inert (fun _ h => inert_of_mem_typeChanges h) _
  have henums : (Store.afterChanges matching old new).run (typeCreations old new) =
      some (Store.afterChanges matching old new) :=
    Store.run_of_inert (fun _ h => inert_of_mem_typeCreations h) _
  simp only [planSteps, Store.run_append, htypes, run_renameSteps hfits,
    run_keptPhase hfits hold hnew, henums, run_creationPhase hfits, run_dropPhase hfits,
    Option.bind_some]

/-- **A plan is sound.** Run strictly and in order on the tables of the old schema, the steps of a
plan are never stuck, and the store ends up with exactly the tables of the new schema: the same
names, and under each name the same columns with their base types, bans on null and defaults. -/
theorem run_plan (options : MatchOptions) (old new : Schema) (hold : old.ColumnsDistinct)
    (hnew : new.ColumnsDistinct) (steps : List Step) (hplan : plan options old new = .ok steps) :
    (Store.ofSchema old).run steps = some (Store.ofSchema new) := by
  rw [eq_planSteps_of_plan hplan]
  exact run_planSteps (Matching.ofSchemas_fits options old new) hold hnew

/-- The sample migration runs through. -/
theorem run_sample_plan :
    plan .standard Sample.before Sample.after = .ok Sample.steps ∧
      (Store.ofSchema Sample.before).run Sample.steps = some (Store.ofSchema Sample.after) :=
  ⟨Sample.plan_before_after, run_plan .standard Sample.before Sample.after (by decide +kernel)
    (by decide +kernel) Sample.steps Sample.plan_before_after⟩

end SchemaEvolution
