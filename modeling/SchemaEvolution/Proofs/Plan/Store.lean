import SchemaEvolution.Plan.Step
import SchemaEvolution.Proofs.Catalog
import Mathlib.Logic.Function.Basic

/-! # Stores: what the steps of a plan do to tables
A **store** holds tables under names, a stored table holds columns under names, and of a stored
column the base type, the ban on null and the default are known. `Store.execute` runs one step in a
**strict** way: a step that finds the store in another state than it needs is stuck, and the result
is `none`. Remarks, steps about types and steps about primary keys do nothing here.

`Store.run` runs a list of steps. `Turns` and `TurnsColumn` say that a list of steps takes one table
or one column from a state to another and leaves everything else alone. What a loop over columns or
tables has made of a state is an `overlay` of the new values over the old ones. -/

namespace SchemaEvolution

/-! ## Overlays -/

/-- What stands under each name when one assignment of values to names is laid **over** another one,
at the names that are chosen. -/
def overlay {α : Type} (chosen : String → Bool) (upper lower : String → Option α) :
    String → Option α :=
  fun name => (if chosen name then upper name else none).or (lower name)

section Overlay

variable {α : Type} {chosen : String → Bool} {upper lower : String → Option α} {name : String}

/-- Nothing laid over an assignment leaves it as it is. -/
theorem overlay_none (chosen : String → Bool) (lower : String → Option α) :
    overlay chosen (fun _ => none) lower = lower := by
  funext other
  rw [overlay, ite_self, Option.none_or]

/-- A value can be written below at a name that is chosen but still free above. -/
theorem overlay_update_of_chosen (hchosen : chosen name = true) (hfree : upper name = none)
    (value : α) :
    overlay chosen upper (Function.update lower name (some value)) =
      overlay chosen (Function.update upper name (some value)) lower := by
  funext other
  by_cases hother : other = name
  · subst hother
    simp [overlay, hchosen, hfree]
  · simp [overlay, hother]

/-- What stands above does not matter at a name that is not chosen. -/
theorem overlay_update_of_not_chosen (hchosen : chosen name = false) (value : Option α) :
    overlay chosen (Function.update upper name value) lower = overlay chosen upper lower := by
  funext other
  by_cases hother : other = name
  · subst hother
    simp [overlay, hchosen]
  · simp [overlay, hother]

end Overlay

/-! ## Stored columns -/

/-- What a store knows about a column besides its name. -/
structure ColumnState where
  /-- The base type. -/
  baseType : String
  /-- Whether null is forbidden. -/
  notNull : Bool
  /-- The default expression, if there is one. -/
  defaultValue : Option String
  deriving DecidableEq, Repr

/-- A declared column as it is stored. -/
def Column.state (column : Column) : ColumnState :=
  ⟨column.baseType, column.notNull, column.defaultValue⟩

namespace ColumnState

/-- Change the base type to another one; the column must have no default at that moment. -/
def retype (newType : String) (column : ColumnState) : Option ColumnState :=
  if column.baseType ≠ newType ∧ column.defaultValue = none then
    some { column with baseType := newType }
  else none

/-- Set a default that differs from the one that is there. -/
def setDefault (value : String) (column : ColumnState) : Option ColumnState :=
  if column.defaultValue ≠ some value then some { column with defaultValue := some value } else none

/-- Take away the default that is there. -/
def dropDefault (column : ColumnState) : Option ColumnState :=
  if column.defaultValue ≠ none then some { column with defaultValue := none } else none

/-- Forbid null where it was allowed, or allow it where it was forbidden. -/
def setNotNull (flag : Bool) (column : ColumnState) : Option ColumnState :=
  if column.notNull ≠ flag then some { column with notNull := flag } else none

end ColumnState

/-! ## Stored tables -/

/-- A stored table: its columns by name. -/
abbrev TableState := String → Option ColumnState

namespace TableState

/-- A list of declared columns as a stored table. -/
def ofColumns (columns : List Column) : TableState :=
  fun name => (Column.find? columns name).map Column.state

/-- Add a column under a name that is free. -/
def addColumn (column : Column) (table : TableState) : Option TableState :=
  if (table column.name).isNone then some (Function.update table column.name (some column.state))
  else none

/-- Remove a column that is there. -/
def dropColumn (name : String) (table : TableState) : Option TableState :=
  if (table name).isSome then some (Function.update table name none) else none

/-- Change a column that is there. -/
def alterColumn (name : String) (change : ColumnState → Option ColumnState) (table : TableState) :
    Option TableState := do
  let column ← table name
  let changed ← change column
  return Function.update table name (some changed)

/-- Whether a column is there. -/
def has (table : TableState) (name : String) : Bool := (table name).isSome

/-- Without columns no column has a state. -/
@[simp] theorem ofColumns_nil : ofColumns [] = fun _ => none := rfl

/-- The first column stands before those of its name that follow. -/
theorem ofColumns_cons (column : Column) (columns : List Column) :
    ofColumns (column :: columns) =
      Function.update (ofColumns columns) column.name (some column.state) := by
  funext name
  rw [ofColumns, Column.find?_cons]
  by_cases hname : column.name = name
  · subst hname
    rw [if_pos rfl, Function.update_self, Option.map_some]
  · rw [if_neg hname, Function.update_of_ne (Ne.symm hname), ofColumns]

/-- A stored table has the columns that were declared. -/
theorem has_ofColumns (columns : List Column) (name : String) :
    (ofColumns columns).has name = Column.declares columns name := by
  rw [← Column.isSome_find?, has, ofColumns, Option.isSome_map]

/-- No column is stored under a name exactly when none was declared. -/
theorem ofColumns_eq_none_iff (columns : List Column) (name : String) :
    ofColumns columns name = none ↔ Column.declares columns name = false := by
  rw [ofColumns, Option.map_eq_none_iff, Column.find?_eq_none_iff]

/-- The first of several columns with distinct names is not stored by the others. -/
theorem ofColumns_of_distinct {column : Column} {columns : List Column}
    (h : Column.Distinct (column :: columns)) : ofColumns columns column.name = none := by
  rw [ofColumns_eq_none_iff, Column.declares_eq_false_iff]
  exact ((Column.distinct_cons column columns).mp h).1

/-- Keeping the columns whose names pass a test. -/
theorem ofColumns_filter (keep : String → Bool) (columns : List Column) (name : String) :
    ofColumns (columns.filter fun column => keep column.name) name =
      if keep name then ofColumns columns name else none := by
  induction columns with
  | nil => simp
  | cons column columns ih =>
    rw [List.filter_cons, ofColumns_cons]
    by_cases hname : name = column.name
    · subst hname
      by_cases hkeep : keep column.name
      · simp [hkeep, ofColumns_cons]
      · simp [hkeep, ih]
    · by_cases hkeep : keep column.name
      · simp [hkeep, ofColumns_cons, hname, ih]
      · simp [hkeep, hname, ih]

end TableState

/-! ## Stores -/

/-- A store: its tables by name. -/
abbrev Store := String → Option TableState

namespace Store

/-- The store that holds the listed tables. -/
def ofTables (tables : List (String × List Column)) : Store :=
  fun name => (Catalog.lookup name tables).map TableState.ofColumns

/-- The store that holds the tables of a schema. -/
def ofSchema (schema : Schema) : Store :=
  fun name => (schema.tables.get? name).map TableState.ofColumns

/-- Give a table that is there another name, which must be free. -/
def renameTable (store : Store) (source target : String) : Option Store := do
  let table ← store source
  if (store target).isNone then
    return Function.update (Function.update store source none) target (some table)
  else none

/-- Create a table under a name that is free. -/
def createTable (store : Store) (name : String) (columns : List Column) : Option Store :=
  if (store name).isNone then
    some (Function.update store name (some (TableState.ofColumns columns)))
  else none

/-- Copy columns that both tables have. The declarations of the store stay as they are. -/
def copyData (store : Store) (source target : String) (columns : List String) : Option Store := do
  let origin ← store source
  let into ← store target
  if columns.all fun column => origin.has column && into.has column then return store else none

/-- Remove a table that is there. -/
def dropTable (store : Store) (name : String) : Option Store :=
  if (store name).isSome then some (Function.update store name none) else none

/-- Change a table that is there. -/
def alterTable (store : Store) (name : String) (change : TableState → Option TableState) :
    Option Store := do
  let table ← store name
  let changed ← change table
  return Function.update store name (some changed)

/-- Run a step; `none` when the store is not in the state that the step needs. -/
def execute (store : Store) : Step → Option Store
  | .error _ => some store
  | .caution _ => some store
  | .note _ => some store
  | .addEnumValue _ _ => some store
  | .createEnum _ _ => some store
  | .renameTable source target => store.renameTable source target
  | .createTable name columns => store.createTable name columns
  | .copyData source target columns => store.copyData source target columns
  | .dropTable name => store.dropTable name
  | .addColumn table column => store.alterTable table (TableState.addColumn column)
  | .dropColumn table column => store.alterTable table (TableState.dropColumn column)
  | .alterType table column newType _ =>
    store.alterTable table (TableState.alterColumn column (ColumnState.retype newType))
  | .setDefault table column value =>
    store.alterTable table (TableState.alterColumn column (ColumnState.setDefault value))
  | .dropDefault table column =>
    store.alterTable table (TableState.alterColumn column ColumnState.dropDefault)
  | .setNotNull table column =>
    store.alterTable table (TableState.alterColumn column (ColumnState.setNotNull true))
  | .dropNotNull table column =>
    store.alterTable table (TableState.alterColumn column (ColumnState.setNotNull false))
  | .addPrimaryKey _ _ => some store
  | .dropPrimaryKey _ => some store

/-- **Run a list of steps** in order; `none` as soon as one of them is stuck. -/
def run (store : Store) : List Step → Option Store
  | [] => some store
  | step :: steps => (store.execute step).bind fun next => run next steps

/-- Without tables no table has a state. -/
@[simp] theorem ofTables_nil : ofTables [] = fun _ => none := rfl

/-- The first table stands before those of its name that follow. -/
theorem ofTables_cons (table : String × List Column) (tables : List (String × List Column)) :
    ofTables (table :: tables) =
      Function.update (ofTables tables) table.1 (some (TableState.ofColumns table.2)) := by
  funext name
  rw [ofTables, Catalog.lookup_cons]
  by_cases hname : table.1 = name
  · subst hname
    rw [if_pos rfl, Function.update_self, Option.map_some]
  · rw [if_neg hname, Function.update_of_ne (Ne.symm hname), ofTables]

/-- No table is stored under a name exactly when none is listed. -/
theorem ofTables_eq_none_iff (tables : List (String × List Column)) (name : String) :
    ofTables tables name = none ↔ name ∉ tables.map Prod.fst := by
  rw [ofTables, Option.map_eq_none_iff, Catalog.lookup_eq_none_iff]

/-- A name holds a table exactly when the schema has it. -/
theorem ofSchema_eq_none_iff (schema : Schema) (name : String) :
    ofSchema schema name = none ↔ name ∉ schema.tables.names :=
  ofTables_eq_none_iff schema.tables.entries name

/-- Without steps a store stays as it is. -/
@[simp] theorem run_nil (store : Store) : store.run [] = some store := rfl

/-- A run executes its first step and then the others. -/
theorem run_cons (store : Store) (step : Step) (steps : List Step) :
    store.run (step :: steps) = (store.execute step).bind fun next => next.run steps := rfl

/-- Lists of steps run one after the other. -/
theorem run_append (store : Store) (first second : List Step) :
    store.run (first ++ second) = (store.run first).bind fun next => next.run second := by
  induction first generalizing store with
  | nil => rfl
  | cons step steps ih =>
    rw [List.cons_append, run_cons, run_cons, Option.bind_assoc]
    exact congrArg _ (funext fun next => ih next)

/-- After the first of two lists the second one runs on what the first one left. -/
theorem run_append_of_run {store middle : Store} {first : List Step}
    (h : store.run first = some middle) (second : List Step) :
    store.run (first ++ second) = middle.run second := by
  rw [run_append, h, Option.bind_some]

/-- A step is **inert** when it does nothing to the tables of any store. -/
def Inert (step : Step) : Prop := ∀ store : Store, store.execute step = some store

/-- Inert steps leave the store as it is. -/
theorem run_of_inert {steps : List Step} (h : ∀ step ∈ steps, Inert step) (store : Store) :
    store.run steps = some store := by
  induction steps with
  | nil => rfl
  | cons step steps ih =>
    rw [run_cons, h step List.mem_cons_self, Option.bind_some]
    exact ih fun other hother => h other (List.mem_cons_of_mem step hother)

end Store

/-! ## Steps within one table -/

/-- Running the steps takes a table from one state to another and leaves all other tables alone. -/
def Turns (table : String) (steps : List Step) (before after : TableState) : Prop :=
  ∀ store : Store, store table = some before →
    store.run steps = some (Function.update store table (some after))

namespace Turns

variable {table : String} {steps first second : List Step} {before middle after : TableState}

/-- Inert steps do not change a table. -/
theorem of_inert (h : ∀ step ∈ steps, Store.Inert step) (state : TableState) :
    Turns table steps state state := by
  intro store hstore
  rw [Store.run_of_inert h, Function.update_eq_self_iff.mpr hstore.symm]

/-- No steps leave a table in its state. -/
theorem nil (state : TableState) : Turns table [] state state :=
  of_inert (by simp) state

/-- Changes of a table are made one after the other. -/
theorem append (hfirst : Turns table first before middle)
    (hsecond : Turns table second middle after) : Turns table (first ++ second) before after := by
  intro store hstore
  rw [Store.run_append_of_run (hfirst store hstore), hsecond _ (Function.update_self ..),
    Function.update_idem]

/-- A step that changes a stored table changes it in every store. -/
theorem single {step : Step} {change : TableState → Option TableState}
    (hstep : ∀ store : Store, store.execute step = store.alterTable table change)
    (hchange : change before = some after) : Turns table [step] before after := by
  intro store hstore
  simp [Store.run_cons, hstep, Store.alterTable, hstore, hchange]

end Turns

/-! ## Steps within one column -/

/-- Running the steps takes a column from one state to another and leaves everything else alone. -/
def TurnsColumn (table column : String) (steps : List Step) (before after : ColumnState) : Prop :=
  ∀ state : TableState, state column = some before →
    Turns table steps state (Function.update state column (some after))

namespace TurnsColumn

variable {table column : String} {steps first second : List Step}
  {before middle after : ColumnState}

/-- Inert steps do not change a column. -/
theorem of_inert (h : ∀ step ∈ steps, Store.Inert step) (state : ColumnState) :
    TurnsColumn table column steps state state := by
  intro whole hwhole
  rw [Function.update_eq_self_iff.mpr hwhole.symm]
  exact Turns.of_inert h whole

/-- No steps leave a column in its state. -/
theorem nil (state : ColumnState) : TurnsColumn table column [] state state :=
  of_inert (by simp) state

/-- Changes of a column are made one after the other. -/
theorem append (hfirst : TurnsColumn table column first before middle)
    (hsecond : TurnsColumn table column second middle after) :
    TurnsColumn table column (first ++ second) before after := by
  intro state hstate
  have hrest := hsecond _ (Function.update_self column (some middle) state)
  rw [Function.update_idem] at hrest
  exact (hfirst state hstate).append hrest

/-- A step that changes a stored column changes it in every table. -/
theorem single {step : Step} {change : ColumnState → Option ColumnState}
    (hstep : ∀ store : Store,
      store.execute step = store.alterTable table (TableState.alterColumn column change))
    (hchange : change before = some after) : TurnsColumn table column [step] before after := by
  intro state hstate
  refine Turns.single hstep ?_
  simp [TableState.alterColumn, hstate, hchange]

end TurnsColumn

end SchemaEvolution
