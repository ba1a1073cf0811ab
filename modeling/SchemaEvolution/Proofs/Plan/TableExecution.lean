import SchemaEvolution.Proofs.Plan.Phases
import SchemaEvolution.Proofs.Plan.Store

/-! # Executing the changes of one table
The steps for a column take its stored state from the old declaration to the new one, whatever else
the table holds: a default is out of the way when the type changes, and a statement is only there
when it changes something. From this, `turns_columnSteps` shows that the steps for a table take its
stored columns from the old list to the new one. -/

namespace SchemaEvolution

variable (table : String)

/-! ## One column -/

/-- A default that is there is taken away before the type changes. -/
theorem turnsColumn_dropDefault (column : String) (state : ColumnState) :
    TurnsColumn table column
      (if state.defaultValue.isSome then [.dropDefault table column] else [])
      state { state with defaultValue := none } := by
  cases hdefault : state.defaultValue with
  | none =>
    have hsame : { state with defaultValue := none } = state := by rw [← hdefault]
    rw [hsame]
    exact TurnsColumn.nil state
  | some value =>
    exact TurnsColumn.single (fun _ => rfl) (by simp [ColumnState.dropDefault, hdefault])

/-- A default that is to be there is set where none is. -/
theorem turnsColumn_restoreDefault (column baseType : String) (notNull : Bool)
    (target : Option String) :
    TurnsColumn table column
      (match target with
        | some value => [.setDefault table column value]
        | none => [])
      ⟨baseType, notNull, none⟩ ⟨baseType, notNull, target⟩ := by
  cases target with
  | none => exact TurnsColumn.nil _
  | some value => exact TurnsColumn.single (fun _ => rfl) (by simp [ColumnState.setDefault])

/-- **Type and default** of a column are taken from the old declaration to the new one. -/
theorem turnsColumn_typeAndDefaultChanges (old new : Column) :
    TurnsColumn table new.name (typeAndDefaultChanges table old new)
      old.state ⟨new.baseType, old.notNull, new.defaultValue⟩ := by
  unfold typeAndDefaultChanges
  by_cases htype : old.baseType = new.baseType
  · -- the type stays: only a default that differs is touched
    rw [if_neg (not_not.mpr htype), ← htype]
    by_cases hdefault : old.defaultValue = new.defaultValue
    · rw [if_neg (not_not.mpr hdefault), ← hdefault]
      exact TurnsColumn.nil old.state
    · rw [if_pos hdefault]
      cases hnew : new.defaultValue with
      | none =>
        rw [hnew] at hdefault
        exact TurnsColumn.single (fun _ => rfl)
          (by simp [ColumnState.dropDefault, Column.state, hdefault])
      | some value =>
        rw [hnew] at hdefault
        exact TurnsColumn.single (fun _ => rfl)
          (by simp [ColumnState.setDefault, Column.state, hdefault])
  · -- the type changes: drop the default, change the type, set the default
    rw [if_pos htype]
    have hretype : TurnsColumn table new.name
        [.alterType table new.name new.baseType
          (booleanConversion old.baseType new.baseType new.name)]
        ⟨old.baseType, old.notNull, none⟩ ⟨new.baseType, old.notNull, none⟩ :=
      TurnsColumn.single (fun _ => rfl) (by simp [ColumnState.retype, htype])
    exact ((turnsColumn_dropDefault table new.name old.state).append hretype).append
      (turnsColumn_restoreDefault table new.name new.baseType old.notNull new.defaultValue)

/-- Steps about the primary key leave the store alone. -/
theorem inert_of_mem_keyChanges {table : String} {old new : Column} {step : Step}
    (h : step ∈ keyChanges table old new) : Store.Inert step := by
  unfold keyChanges at h
  split at h <;> simp only [List.mem_singleton, List.not_mem_nil] at h <;> subst h <;>
    exact fun _ => rfl

/-- The **ban on null** is taken from the old declaration to the new one. -/
theorem turnsColumn_nullChanges (old new : Column) (baseType : String)
    (defaultValue : Option String) :
    TurnsColumn table new.name (nullChanges table old new)
      ⟨baseType, old.notNull, defaultValue⟩ ⟨baseType, new.notNull, defaultValue⟩ := by
  unfold nullChanges
  cases hold : old.notNull <;> cases hnew : new.notNull
  · exact TurnsColumn.nil _
  · exact TurnsColumn.single (fun _ => rfl) (by simp [ColumnState.setNotNull])
  · exact TurnsColumn.single (fun _ => rfl) (by simp [ColumnState.setNotNull])
  · exact TurnsColumn.nil _

/-- **A kept column becomes what it is to be.** -/
theorem turnsColumn_columnChanges (old new : Column) :
    TurnsColumn table new.name (columnChanges table old new) old.state new.state :=
  ((turnsColumn_typeAndDefaultChanges table old new).append
    (TurnsColumn.of_inert (fun _ h => inert_of_mem_keyChanges h) _)).append
    (turnsColumn_nullChanges table old new new.baseType new.defaultValue)

/-! ## The columns of a table -/

/-- Columns with free names are added one after the other. -/
theorem turns_addColumns {added : List Column} (hdistinct : Column.Distinct added)
    (state : TableState) (hfree : ∀ column ∈ added, state column.name = none) :
    Turns table (added.map (.addColumn table)) state
      (overlay (fun _ => true) (TableState.ofColumns added) state) := by
  induction added generalizing state with
  | nil => exact Turns.nil state
  | cons column rest ih =>
    have hfirst : Turns table [.addColumn table column] state
        (Function.update state column.name (some column.state)) :=
      Turns.single (fun _ => rfl) (by simp [TableState.addColumn, hfree])
    -- the names of the other columns stay free
    have hrest := ih ((Column.distinct_cons column rest).mp hdistinct).2
      (Function.update state column.name (some column.state)) fun other hother => by
        rw [Function.update_of_ne (hdistinct.name_ne hother)]
        exact hfree other (List.mem_cons_of_mem column hother)
    rw [overlay_update_of_chosen rfl (TableState.ofColumns_of_distinct hdistinct),
      ← TableState.ofColumns_cons] at hrest
    exact hfirst.append hrest

/-- The columns that were there before are changed one after the other. -/
theorem turns_keptColumnChanges (old : List Column) {columns : List Column}
    (hdistinct : Column.Distinct columns) (state : TableState)
    (hstate : ∀ column ∈ columns, ∀ former, Column.find? old column.name = some former →
      state column.name = some former.state) :
    Turns table (keptColumnChanges table old columns) state
      (overlay (Column.declares old) (TableState.ofColumns columns) state) := by
  unfold keptColumnChanges
  induction columns generalizing state with
  | nil =>
    rw [TableState.ofColumns_nil, overlay_none]
    exact Turns.nil state
  | cons column rest ih =>
    have hdistinct' := ((Column.distinct_cons column rest).mp hdistinct).2
    rw [List.flatMap_cons, TableState.ofColumns_cons]
    cases hformer : Column.find? old column.name with
    | none =>
      -- a new column is not changed here, and the overlay does not choose it
      have hnew := (Column.find?_eq_none_iff old column.name).mp hformer
      rw [overlay_update_of_not_chosen hnew]
      exact ih hdistinct' state fun other hother =>
        hstate other (List.mem_cons_of_mem column hother)
    | some former =>
      have hdeclared := Column.declares_of_find? hformer
      have hfirst := turnsColumn_columnChanges table former column state
        (hstate column List.mem_cons_self former hformer)
      -- the other columns are still as the old declaration has them
      have hrest := ih hdistinct' (Function.update state column.name (some column.state))
        fun other hother other' hother' => by
          rw [Function.update_of_ne (hdistinct.name_ne hother)]
          exact hstate other (List.mem_cons_of_mem column hother) other' hother'
      rw [overlay_update_of_chosen hdeclared (TableState.ofColumns_of_distinct hdistinct)] at hrest
      exact hfirst.append hrest

/-- Columns that are there are dropped one after the other. -/
theorem turns_dropColumns {dropped : List Column} (hdistinct : Column.Distinct dropped)
    (state : TableState) (hstored : ∀ column ∈ dropped, state.has column.name = true) :
    Turns table (dropped.map fun column => .dropColumn table column.name) state
      fun name => if Column.declares dropped name then none else state name := by
  induction dropped generalizing state with
  | nil => exact Turns.nil state
  | cons column rest ih =>
    have hfirst : Turns table [.dropColumn table column.name] state
        (Function.update state column.name none) :=
      Turns.single (fun _ => rfl) (if_pos (hstored column List.mem_cons_self))
    -- the other columns to drop are still there
    have hrest := ih ((Column.distinct_cons column rest).mp hdistinct).2
      (Function.update state column.name none) fun other hother => by
        rw [TableState.has, Function.update_of_ne (hdistinct.name_ne hother)]
        exact hstored other (List.mem_cons_of_mem column hother)
    have hafter : (fun name => if Column.declares rest name then none
          else Function.update state column.name none name) =
        fun name => if Column.declares (column :: rest) name then none else state name := by
      funext name
      by_cases hname : column.name = name
      · subst hname
        simp [Column.declares]
      · rw [Function.update_of_ne (Ne.symm hname)]
        simp [Column.declares, hname]
    rw [List.map_cons, ← List.singleton_append, ← hafter]
    exact hfirst.append hrest

/-- Leaving columns out of a list with distinct names keeps them distinct. -/
theorem Column.Distinct.missingFrom {columns : List Column} (h : Column.Distinct columns)
    (others : List Column) : Column.Distinct (columnsMissingFrom columns others) :=
  h.sublist (List.filter_sublist.map Column.name)

/-- The columns of a list that another list lacks, as a stored table. -/
theorem ofColumns_columnsMissingFrom (columns others : List Column) (name : String) :
    TableState.ofColumns (columnsMissingFrom columns others) name =
      if Column.declares others name then none else TableState.ofColumns columns name := by
  rw [columnsMissingFrom, TableState.ofColumns_filter (fun name => !Column.declares others name)]
  cases Column.declares others name <;> rfl

/-- What is left of a table after its steps are the columns of the new list: a column of both lists
was changed, a column of the new list only was added, and a column of the old list only is gone. -/
theorem columns_after_steps (old new : List Column) (name : String) :
    (if Column.declares (columnsMissingFrom old new) name then none
      else overlay (Column.declares old) (TableState.ofColumns new)
        (overlay (fun _ => true) (TableState.ofColumns (columnsMissingFrom new old))
          (TableState.ofColumns old)) name) = TableState.ofColumns new name := by
  have hnone := fun columns => (TableState.ofColumns_eq_none_iff columns name).mpr
  simp only [overlay]
  rw [← TableState.has_ofColumns (columnsMissingFrom old new), TableState.has,
    ofColumns_columnsMissingFrom, ofColumns_columnsMissingFrom]
  cases hold : Column.declares old name <;> cases hnew : Column.declares new name
  · -- in neither list
    simp [hnone old hold, hnone new hnew]
  · -- added
    simp [hnone old hold]
  · -- dropped
    have hstored : (TableState.ofColumns old name).isSome = true :=
      (TableState.has_ofColumns old name).trans hold
    simp [hstored, hnone new hnew]
  · -- changed
    obtain ⟨state, hstate⟩ := Option.isSome_iff_exists.mp
      ((TableState.has_ofColumns new name).trans hnew)
    simp [hstate]

/-- **The steps for a table take its columns from the old list to the new one**, when neither list
repeats a name. -/
theorem turns_columnSteps {old new : List Column} (hold : Column.Distinct old)
    (hnew : Column.Distinct new) :
    Turns table (columnSteps table old new) (TableState.ofColumns old)
      (TableState.ofColumns new) := by
  -- columns come, columns that stay are changed, and columns go
  have hadd := turns_addColumns table (hnew.missingFrom old) (TableState.ofColumns old)
    fun column hmem => by
      obtain ⟨-, hfree⟩ := List.mem_filter.mp hmem
      rw [TableState.ofColumns_eq_none_iff]
      simpa using hfree
  have hkeep := turns_keptColumnChanges table old hnew
    (overlay (fun _ => true) (TableState.ofColumns (columnsMissingFrom new old))
      (TableState.ofColumns old))
    fun column _ former hformer => by
      rw [overlay, if_pos rfl, ofColumns_columnsMissingFrom,
        if_pos (Column.declares_of_find? hformer), Option.none_or, TableState.ofColumns, hformer,
        Option.map_some]
  have hdrop := turns_dropColumns table (hold.missingFrom new)
    (overlay (Column.declares old) (TableState.ofColumns new)
      (overlay (fun _ => true) (TableState.ofColumns (columnsMissingFrom new old))
        (TableState.ofColumns old)))
    fun column hmem => by
      obtain ⟨hcolumn, -⟩ := List.mem_filter.mp hmem
      have hdeclared : (TableState.ofColumns old).has column.name = true := by
        rw [TableState.has_ofColumns, Column.declares_iff]
        exact List.mem_map_of_mem hcolumn
      rw [TableState.has] at hdeclared ⊢
      simp [overlay, hdeclared]
  -- what the three parts leave is the new list
  rw [funext (columns_after_steps old new)] at hdrop
  exact (hadd.append hkeep).append hdrop

end SchemaEvolution
