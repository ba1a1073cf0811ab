import SchemaEvolution.Proofs.Plan.Phases
import Mathlib.Logic.Function.Basic

/-! # Primary keys under the steps of a plan
A **key store** knows the primary key of each table, if the table has one: the column it is made of
and the name of its constraint. The constraint is named after the table when the key is made, and
giving the table another name does not change it. `KeyStore.execute` runs one step and gives `none`
where the key of the table is not as the step needs it.

The steps for the columns of one table act on the key of that table alone. `Key.change` is what they
do to it, and `actsOnKey_columnSteps` shows that they do nothing else. -/

namespace SchemaEvolution

/-! ## Keys of column lists -/

namespace Column

/-- The name of the column that is the primary key; the first one, if there are several. -/
def keyName? (columns : List Column) : Option String := (columns.find? isPrimaryKey).map name

/-- At most one column of a list is the primary key. -/
def KeyUnique (columns : List Column) : Prop := (columns.filter isPrimaryKey).length ≤ 1

instance (columns : List Column) : Decidable (KeyUnique columns) :=
  inferInstanceAs (Decidable ((columns.filter isPrimaryKey).length ≤ 1))

variable {columns : List Column} {column : Column}

/-- The key is a column of the list. -/
theorem declares_of_keyName? {name : String} (h : keyName? columns = some name) :
    declares columns name = true := by
  obtain ⟨key, hfind, rfl⟩ := Option.map_eq_some_iff.mp h
  rw [declares_iff]
  exact List.mem_map_of_mem (List.mem_of_find?_eq_some hfind)

/-- Among columns with distinct names and one key, a column **is the key** exactly when it has the
name of the key. -/
theorem KeyUnique.isPrimaryKey_iff (h : KeyUnique columns) (hdistinct : Distinct columns)
    (hmem : column ∈ columns) :
    column.isPrimaryKey = true ↔ keyName? columns = some column.name := by
  constructor
  · intro hkey
    have hfilter : column ∈ columns.filter isPrimaryKey := List.mem_filter.mpr ⟨hmem, hkey⟩
    obtain ⟨only, honly⟩ : ∃ only, columns.filter isPrimaryKey = [only] :=
      List.length_eq_one_iff.mp (Nat.le_antisymm h (List.length_pos_of_mem hfilter))
    rw [honly, List.mem_singleton] at hfilter
    rw [keyName?, ← List.head?_filter, honly, hfilter, List.head?_cons, Option.map_some]
  · intro hname
    obtain ⟨key, hfind, hsame⟩ := Option.map_eq_some_iff.mp hname
    have hcolumn := List.inj_on_of_nodup_map hdistinct (List.mem_of_find?_eq_some hfind) hmem hsame
    exact hcolumn ▸ List.find?_some hfind

end Column

/-- No table of the schema has more than one primary key. -/
def Schema.KeysUnique (schema : Schema) : Prop :=
  ∀ table ∈ schema.tables.entries, Column.KeyUnique table.2

instance (schema : Schema) : Decidable schema.KeysUnique :=
  inferInstanceAs (Decidable (∀ table ∈ schema.tables.entries, Column.KeyUnique table.2))

/-- The columns found under a table's name have one key at most. -/
theorem Schema.KeysUnique.of_get? {schema : Schema} (h : schema.KeysUnique) {table : String}
    {columns : List Column} (hget : schema.tables.get? table = some columns) :
    Column.KeyUnique columns :=
  h (table, columns) ((schema.tables.get?_eq_some_iff table columns).mp hget)

/-! ## Stored keys -/

/-- The primary key of a stored table. -/
structure Key where
  /-- The column it is made of. -/
  column : String
  /-- The name of its constraint. -/
  constraint : String
  deriving DecidableEq, Repr

/-- What a step does to the key of a table, if it has one; `none` where the step is stuck. -/
abbrev KeyChange := Option Key → Option (Option Key)

namespace Key

/-- The name of the constraint of a key that is made in a table. The step that drops the key of a
table asks for the constraint of this name. -/
def constraintOf (table : String) : String := table ++ "_pkey"

/-- The key of a table with the given columns when the table is created. -/
def declared (table : String) (columns : List Column) : Option Key :=
  (Column.keyName? columns).map fun column => ⟨column, constraintOf table⟩

/-- Make a column the key of a table that has none. -/
def make (table column : String) : KeyChange
  | none => some (some ⟨column, constraintOf table⟩)
  | some _ => none

/-- Take the key of a table away, if its constraint has the name that belongs to the table. -/
def drop (table : String) : KeyChange
  | none => none
  | some key => if key.constraint = constraintOf table then some none else none

/-- A key goes with its column. -/
def forget (column : String) : KeyChange := fun key =>
  some (key.filter fun key => key.column != column)

/-- A column that is added to a table may bring the key with it. -/
def add (table : String) (column : Column) : KeyChange :=
  if column.isPrimaryKey then make table column.name else some

/-- A column that is declared anew may become the key or cease to be it. -/
def toggle (table : String) (former column : Column) : KeyChange :=
  match former.isPrimaryKey, column.isPrimaryKey with
  | true, false => drop table
  | false, true => make table column.name
  | _, _ => some

/-- A column of the new list is declared anew if the table had it before. -/
def keep (table : String) (old : List Column) (column : Column) : KeyChange :=
  match Column.find? old column.name with
  | some former => toggle table former column
  | none => some

/-- What becomes of the key when the new columns of a table are added. -/
def addColumns (table : String) (old new : List Column) : KeyChange := fun key =>
  (columnsMissingFrom new old).foldlM (fun key column => add table column key) key

/-- What becomes of the key when the columns that a table keeps are changed. -/
def keepColumns (table : String) (old new : List Column) : KeyChange := fun key =>
  new.foldlM (fun key column => keep table old column key) key

/-- What becomes of the key when the columns that a table loses are dropped. -/
def dropColumns (old new : List Column) : KeyChange := fun key =>
  (columnsMissingFrom old new).foldlM (fun key column => forget column.name key) key

/-- What the steps **from one list of columns to another** do to the key of a table. -/
def change (table : String) (old new : List Column) : KeyChange := fun key =>
  ((addColumns table old new key).bind (keepColumns table old new)).bind (dropColumns old new)

/-- The declared key is made of the key column. -/
theorem column_declared (table : String) (columns : List Column) :
    (declared table columns).map column = Column.keyName? columns := by
  unfold declared
  cases Column.keyName? columns <;> rfl

/-- The step that drops a key names the constraint of a key that was made in that table. -/
theorem sql_dropPrimaryKey (table : String) :
    (Step.dropPrimaryKey table).sql =
      "ALTER TABLE " ++ table ++ " DROP CONSTRAINT " ++ constraintOf table ++ ";" := by
  have hend : "_pkey;" = "_pkey" ++ ";" := by decide +kernel
  change "ALTER TABLE " ++ table ++ " DROP CONSTRAINT " ++ table ++ "_pkey;" = _
  simp only [constraintOf, hend, String.append_assoc]

/-- Constraints of different tables have different names. -/
theorem constraintOf_inj {table other : String} : constraintOf table = constraintOf other ↔
    table = other := by
  simp [constraintOf, String.ext_iff]

end Key

/-! ## Key stores -/

/-- The primary keys of the tables, by the names of the tables. -/
abbrev KeyStore := String → Option Key

namespace KeyStore

/-- The keys of the tables of a schema, each made under the name of its table. -/
def ofSchema (schema : Schema) : KeyStore := fun table =>
  (schema.tables.get? table).bind (Key.declared table)

/-- Change the key of one table. -/
def alter (keys : KeyStore) (table : String) (change : KeyChange) : Option KeyStore :=
  (change (keys table)).map fun key => Function.update keys table key

/-- A table takes its key with it to another name. -/
def rename (keys : KeyStore) (source target : String) : KeyStore :=
  Function.update (Function.update keys source none) target (keys source)

/-- Run a step; `none` when the key of a table is not as the step needs it. -/
def execute (keys : KeyStore) : Step → Option KeyStore
  | .error _ => some keys
  | .caution _ => some keys
  | .note _ => some keys
  | .addEnumValue _ _ => some keys
  | .createEnum _ _ => some keys
  | .renameTable source target => some (keys.rename source target)
  | .createTable name columns => some (Function.update keys name (Key.declared name columns))
  | .copyData _ _ _ => some keys
  | .dropTable name => some (Function.update keys name none)
  | .addColumn table column => keys.alter table (Key.add table column)
  | .dropColumn table column => keys.alter table (Key.forget column)
  | .alterType _ _ _ _ => some keys
  | .setDefault _ _ _ => some keys
  | .dropDefault _ _ => some keys
  | .setNotNull _ _ => some keys
  | .dropNotNull _ _ => some keys
  | .addPrimaryKey table column => keys.alter table (Key.make table column)
  | .dropPrimaryKey table => keys.alter table (Key.drop table)

/-- **Run a list of steps** in order; `none` as soon as one of them is stuck. -/
def run (keys : KeyStore) (steps : List Step) : Option KeyStore := steps.foldlM execute keys

/-- Without steps the keys stay as they are. -/
@[simp] theorem run_nil (keys : KeyStore) : keys.run [] = some keys := rfl

/-- A run executes its first step and then the others. -/
theorem run_cons (keys : KeyStore) (step : Step) (steps : List Step) :
    keys.run (step :: steps) = (keys.execute step).bind fun next => next.run steps :=
  List.foldlM_cons

/-- Lists of steps run one after the other. -/
theorem run_append (keys : KeyStore) (first second : List Step) :
    keys.run (first ++ second) = (keys.run first).bind fun next => next.run second :=
  List.foldlM_append

/-- A step is **inert** when it does nothing to any key. -/
def Inert (step : Step) : Prop := ∀ keys : KeyStore, keys.execute step = some keys

/-- Inert steps leave all keys as they are. -/
theorem run_of_inert {steps : List Step} (h : ∀ step ∈ steps, Inert step) (keys : KeyStore) :
    keys.run steps = some keys :=
  foldlM_of_inert h keys

end KeyStore

/-! ## Steps within one table -/

/-- Running the steps changes the key of one table in the given way, and nothing else. -/
def ActsOnKey (table : String) (steps : List Step) (change : KeyChange) : Prop :=
  ∀ keys : KeyStore, keys.run steps = keys.alter table change

namespace ActsOnKey

variable {table : String} {steps first second : List Step} {change next : KeyChange}

/-- Inert steps do not change a key. -/
theorem of_inert (h : ∀ step ∈ steps, KeyStore.Inert step) : ActsOnKey table steps some := by
  intro keys
  rw [KeyStore.run_of_inert h, KeyStore.alter, Option.map_some, Function.update_eq_self]

/-- No steps leave the key of a table as it is. -/
theorem nil : ActsOnKey table [] some := of_inert (by simp)

/-- A step acts as it is executed. -/
theorem single {step : Step} (h : ∀ keys : KeyStore, keys.execute step = keys.alter table change) :
    ActsOnKey table [step] change := by
  intro keys
  rw [KeyStore.run_cons, h]
  exact Option.bind_fun_some _

/-- Changes of a key are made one after the other. -/
theorem append (hfirst : ActsOnKey table first change) (hsecond : ActsOnKey table second next) :
    ActsOnKey table (first ++ second) fun key => (change key).bind next := by
  intro keys
  rw [KeyStore.run_append, hfirst]
  cases hchange : change (keys table) with
  | none => simp [KeyStore.alter, hchange]
  | some key =>
    rw [KeyStore.alter, hchange, Option.map_some, Option.bind_some, hsecond]
    simp [KeyStore.alter, hchange]

/-- The changes that the steps for the elements of a list make are made in its order. -/
theorem flatMap {α : Type} {xs : List α} {steps : α → List Step} {change : α → KeyChange}
    (h : ∀ x ∈ xs, ActsOnKey table (steps x) (change x)) :
    ActsOnKey table (xs.flatMap steps) fun key => xs.foldlM (fun key x => change x key) key := by
  induction xs with
  | nil => exact nil
  | cons x xs ih =>
    rw [List.forall_mem_cons] at h
    simp only [List.flatMap_cons, List.foldlM_cons]
    exact h.1.append (ih h.2)

end ActsOnKey

variable (table : String)

/-- The steps for the type and the default of a column have nothing to do with keys. -/
theorem actsOnKey_typeAndDefaultChanges (former column : Column) :
    ActsOnKey table (typeAndDefaultChanges table former column) some := by
  refine ActsOnKey.of_inert fun step hstep keys => ?_
  rcases shape_of_mem_typeAndDefaultChanges hstep with rfl | rfl | ⟨value, -, rfl⟩ <;> rfl

/-- The steps for the ban on null have nothing to do with keys. -/
theorem actsOnKey_nullChanges (former column : Column) :
    ActsOnKey table (nullChanges table former column) some := by
  refine ActsOnKey.of_inert fun step hstep keys => ?_
  unfold nullChanges at hstep
  split at hstep <;> simp only [List.mem_singleton, List.not_mem_nil] at hstep <;> subst hstep <;>
    rfl

/-- The step about the key changes the key. -/
theorem actsOnKey_keyChanges (former column : Column) :
    ActsOnKey table (keyChanges table former column) (Key.toggle table former column) := by
  unfold keyChanges Key.toggle
  cases former.isPrimaryKey <;> cases column.isPrimaryKey
  · exact ActsOnKey.nil
  · exact ActsOnKey.single fun _ => rfl
  · exact ActsOnKey.single fun _ => rfl
  · exact ActsOnKey.nil

/-- The steps for a column change the key only if the column becomes the key or ceases to be it. -/
theorem actsOnKey_columnChanges (former column : Column) :
    ActsOnKey table (columnChanges table former column) (Key.toggle table former column) := by
  have h := ((actsOnKey_typeAndDefaultChanges table former column).append
    (actsOnKey_keyChanges table former column)).append (actsOnKey_nullChanges table former column)
  simp only [Option.bind_some, Option.bind_fun_some] at h
  exact h

/-- **The steps for a table change the key of that table**, and no other key. -/
theorem actsOnKey_columnSteps (old new : List Column) :
    ActsOnKey table (columnSteps table old new) (Key.change table old new) := by
  have hadded : ActsOnKey table ((columnsMissingFrom new old).map (.addColumn table))
      (Key.addColumns table old new) := by
    rw [List.map_eq_flatMap]
    exact ActsOnKey.flatMap fun column _ => ActsOnKey.single fun _ => rfl
  have hkept : ActsOnKey table (keptColumnChanges table old new)
      (Key.keepColumns table old new) := by
    refine ActsOnKey.flatMap fun column _ => ?_
    unfold Key.keep
    cases Column.find? old column.name with
    | none => exact ActsOnKey.nil
    | some former => exact actsOnKey_columnChanges table former column
  have hdropped : ActsOnKey table
      ((columnsMissingFrom old new).map fun column => .dropColumn table column.name)
      (Key.dropColumns old new) := by
    rw [List.map_eq_flatMap]
    exact ActsOnKey.flatMap fun column _ => ActsOnKey.single fun _ => rfl
  exact (hadded.append hkept).append hdropped

end SchemaEvolution
