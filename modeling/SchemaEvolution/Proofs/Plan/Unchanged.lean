import SchemaEvolution.Proofs.Plan.Phases

/-! # Empty plans
A plan is empty exactly when the new schema declares what the old one declares, in whatever order.
Composite types are the exception: a new one is left to be declared by hand, and no step says so.
No change of a table, a column or a type that both schemas have is lost, and nothing is emitted for
what only moved. -/

namespace SchemaEvolution

/-! ## Columns -/

/-- Two columns **agree** in all that a comparison looks at. -/
structure Column.Agrees (left right : Column) : Prop where
  /-- They have the same name. -/
  name : left.name = right.name
  /-- They have the same base type. -/
  baseType : left.baseType = right.baseType
  /-- Both or none of them is a primary key. -/
  isPrimaryKey : left.isPrimaryKey = right.isPrimaryKey
  /-- Both or none of them forbids null. -/
  notNull : left.notNull = right.notNull
  /-- They have the same default, or both have none. -/
  defaultValue : left.defaultValue = right.defaultValue

/-- A column agrees with itself. -/
@[refl] theorem Column.Agrees.refl (column : Column) : column.Agrees column :=
  ⟨rfl, rfl, rfl, rfl, rfl⟩

/-- Two lists have the **same columns** when each column of one agrees with one of the other. -/
def SameColumns (old new : List Column) : Prop :=
  (∀ former ∈ old, ∃ column ∈ new, former.Agrees column) ∧
    ∀ column ∈ new, ∃ former ∈ old, former.Agrees column

/-- Columns in another order are the same columns. -/
theorem SameColumns.of_perm {old new : List Column} (h : old.Perm new) : SameColumns old new :=
  ⟨fun former hformer => ⟨former, h.mem_iff.mp hformer, .refl former⟩,
    fun column hcolumn => ⟨column, h.mem_iff.mpr hcolumn, .refl column⟩⟩

variable {table : String}

/-- Nothing is done about type and default exactly when both are the same. -/
theorem typeAndDefaultChanges_eq_nil_iff (old new : Column) :
    typeAndDefaultChanges table old new = [] ↔
      old.baseType = new.baseType ∧ old.defaultValue = new.defaultValue := by
  unfold typeAndDefaultChanges
  by_cases htype : old.baseType = new.baseType
  · by_cases hdefault : old.defaultValue = new.defaultValue
    · simp [htype, hdefault]
    · cases hnew : new.defaultValue <;> simp_all
  · simp [htype]

/-- There is nothing to do about the key exactly when the column is the key on both sides or on
neither. -/
theorem keyChanges_eq_nil_iff (old new : Column) :
    keyChanges table old new = [] ↔ old.isPrimaryKey = new.isPrimaryKey := by
  unfold keyChanges
  cases old.isPrimaryKey <;> cases new.isPrimaryKey <;> simp

/-- There is nothing to do about null exactly when it is banned on both sides or on neither. -/
theorem nullChanges_eq_nil_iff (old new : Column) :
    nullChanges table old new = [] ↔ old.notNull = new.notNull := by
  unfold nullChanges
  cases old.notNull <;> cases new.notNull <;> simp

/-- Nothing is done about a column exactly when it agrees with what it was. -/
theorem columnChanges_eq_nil_iff {old new : Column} (hname : old.name = new.name) :
    columnChanges table old new = [] ↔ old.Agrees new := by
  simp only [columnChanges, List.append_eq_nil_iff, typeAndDefaultChanges_eq_nil_iff,
    keyChanges_eq_nil_iff, nullChanges_eq_nil_iff]
  constructor
  · rintro ⟨⟨⟨htype, hdefault⟩, hkey⟩, hnull⟩
    exact ⟨hname, htype, hkey, hnull, hdefault⟩
  · rintro ⟨-, htype, hkey, hnull, hdefault⟩
    exact ⟨⟨⟨htype, hdefault⟩, hkey⟩, hnull⟩

/-- No column is missing exactly when all names are there. -/
theorem columnsMissingFrom_eq_nil_iff (columns others : List Column) :
    columnsMissingFrom columns others = [] ↔
      ∀ column ∈ columns, Column.declares others column.name = true := by
  simp [columnsMissingFrom]

/-- Nothing is done about the kept columns exactly when each agrees with what it was. -/
theorem keptColumnChanges_eq_nil_iff (old new : List Column) :
    keptColumnChanges table old new = [] ↔
      ∀ column ∈ new, ∀ former, Column.find? old column.name = some former →
        former.Agrees column := by
  unfold keptColumnChanges
  rw [List.flatMap_eq_nil_iff]
  refine forall₂_congr fun column _ => ?_
  cases hfind : Column.find? old column.name with
  | none => simp
  | some former =>
    have hname : former.name = column.name := (Column.mem_of_find? hfind).2
    simp [columnChanges_eq_nil_iff hname]

/-- **Nothing is done about a table exactly when it has the same columns**, when neither list
repeats a name. -/
theorem columnSteps_eq_nil_iff {old new : List Column} (hold : Column.Distinct old)
    (hnew : Column.Distinct new) : columnSteps table old new = [] ↔ SameColumns old new := by
  simp only [columnSteps, List.append_eq_nil_iff, List.map_eq_nil_iff,
    columnsMissingFrom_eq_nil_iff, keptColumnChanges_eq_nil_iff]
  constructor
  · rintro ⟨⟨hadded, hkept⟩, hdropped⟩
    -- no column was added, so each new column is found in the old list and agrees with it
    have hback : ∀ column ∈ new, ∃ former ∈ old, former.Agrees column := by
      intro column hcolumn
      have hdeclared := hadded column hcolumn
      rw [← Column.isSome_find?, Option.isSome_iff_exists] at hdeclared
      obtain ⟨former, hformer⟩ := hdeclared
      exact ⟨former, (Column.mem_of_find? hformer).1, hkept column hcolumn former hformer⟩
    -- no column was dropped; the new column under the old name leads back to the old column itself
    refine ⟨fun former hformer => ?_, hback⟩
    obtain ⟨column, hcolumn, hname⟩ :=
      List.mem_map.mp ((Column.declares_iff new former.name).mp (hdropped former hformer))
    obtain ⟨other, hother, hagrees⟩ := hback column hcolumn
    have hsame : other = former :=
      List.inj_on_of_nodup_map hold hother hformer (hagrees.name.trans hname)
    exact ⟨column, hcolumn, hsame ▸ hagrees⟩
  · rintro ⟨hforth, hback⟩
    refine ⟨⟨fun column hcolumn => ?_, fun column hcolumn former hformer => ?_⟩,
      fun former hformer => ?_⟩
    · obtain ⟨former, hformer, hagrees⟩ := hback column hcolumn
      exact (Column.declares_iff old column.name).mpr
        (List.mem_map.mpr ⟨former, hformer, hagrees.name⟩)
    · -- the column that is found agrees with a new one of its name, and there is only one
      obtain ⟨hmem, hname⟩ := Column.mem_of_find? hformer
      obtain ⟨other, hother, hagrees⟩ := hforth former hmem
      have hsame : other = column :=
        List.inj_on_of_nodup_map hnew hother hcolumn (hagrees.name.symm.trans hname)
      exact hsame ▸ hagrees
    · obtain ⟨column, hcolumn, hagrees⟩ := hforth former hformer
      exact (Column.declares_iff new former.name).mpr
        (List.mem_map.mpr ⟨column, hcolumn, hagrees.name.symm⟩)

/-! ## Types -/

/-- No value changed its place exactly when one list of values starts with the other. -/
theorem valueConflicts_eq_nil_iff (typeName : String) (old new : List String) :
    valueConflicts typeName old new = [] ↔ old <+: new ∨ new <+: old := by
  induction old generalizing new with
  | nil => simp [valueConflicts]
  | cons value old ih =>
    cases new with
    | nil => simp [valueConflicts]
    | cons next new =>
      rw [valueConflicts]
      by_cases hvalue : value = next
      · subst hvalue
        simp [ih, List.cons_prefix_cons]
      · -- the first values differ: a conflict is reported, and neither list starts with the other
        have hvalue' : next ≠ value := Ne.symm hvalue
        simp [hvalue, hvalue', List.cons_prefix_cons]

/-- Nothing is done about an enumeration exactly when it has the same values in the same order. -/
theorem enumerationChanges_eq_nil_iff (typeName : String) (old new : List String) :
    enumerationChanges typeName old new = [] ↔ old = new := by
  simp only [enumerationChanges, List.append_eq_nil_iff, List.map_eq_nil_iff,
    List.drop_eq_nil_iff, valueConflicts_eq_nil_iff]
  constructor
  · -- one list starts with the other, and nothing is behind the shorter one
    rintro ⟨⟨hstarts | hstarts, hremoved⟩, hadded⟩
    · exact hstarts.eq_of_length (Nat.le_antisymm hstarts.length_le hadded)
    · exact (hstarts.eq_of_length (Nat.le_antisymm hstarts.length_le hremoved)).symm
  · rintro rfl
    simp

/-- **Nothing is done about the types of a list exactly when each one that was there is the same.**
The comparison can only end early with a conflict. -/
theorem typeChanges_eq_nil_iff (old : Catalog TypeDefinition)
    (types : List (String × TypeDefinition)) :
    typeChanges old types = [] ↔
      ∀ entry ∈ types, ∀ former, old.get? entry.1 = some former → former = entry.2 := by
  induction types with
  | nil => simp [typeChanges]
  | cons entry rest ih =>
    obtain ⟨name, definition⟩ := entry
    rw [List.forall_mem_cons, ← ih, typeChanges]
    cases hformer : old.get? name with
    | none => simp
    | some former =>
      -- where the kind or the text differs, the list starts with a conflict and is not empty
      cases former with
      | enumeration oldValues =>
        cases definition with
        | enumeration newValues => simp [enumerationChanges_eq_nil_iff]
        | composite text => simp
      | composite oldText =>
        cases definition with
        | enumeration newValues => simp
        | composite newText =>
          by_cases htext : oldText = newText <;> simp [htext]

/-- No type is declared exactly when every type that is new is composite. -/
theorem typeCreations_eq_nil_iff (old new : Schema) :
    typeCreations old new = [] ↔
      ∀ entry ∈ new.types.entries, old.types.get? entry.1 = none →
        ∃ text, entry.2 = .composite text := by
  simp only [typeCreations, List.filterMap_eq_nil_iff, addedTypes, List.mem_filter,
    Bool.not_eq_true', Catalog.contains_eq_false_iff, and_imp, Catalog.get?_eq_none_iff]
  refine forall₂_congr fun entry _ => imp_congr_right fun _ => ?_
  unfold createType?
  cases entry.2 <;> simp

/-! ## Schemas -/

/-- The new schema declares what the old one declares, composite types that are new apart. -/
structure Schema.Unchanged (old new : Schema) : Prop where
  /-- The tables have the same names. -/
  table_names : ∀ name, name ∈ old.tables.names ↔ name ∈ new.tables.names
  /-- Each table has the same columns. -/
  table_columns : ∀ name former columns, old.tables.get? name = some former →
    new.tables.get? name = some columns → SameColumns former columns
  /-- Each type that was there and is there is the same. -/
  common_types : ∀ name former definition, old.types.get? name = some former →
    new.types.get? name = some definition → former = definition
  /-- Each type that was not there is composite. -/
  new_types : ∀ name definition, old.types.get? name = none →
    new.types.get? name = some definition → ∃ text, definition = .composite text

variable {matching : Matching} {old new : Schema}

/-- Where both schemas have the same tables, nothing is renamed. -/
theorem Matching.Fits.renames_eq_nil (hfits : matching.Fits old new)
    (hnames : ∀ name, name ∈ old.tables.names ↔ name ∈ new.tables.names) :
    matching.renames = [] := by
  rw [List.eq_nil_iff_forall_not_mem]
  intro pair hpair
  obtain ⟨hold, hnew⟩ := hfits.source_lost pair.1 (List.mem_map_of_mem hpair)
  exact hnew ((hnames pair.1).mp hold)

/-- No table is renamed, created or dropped exactly when both schemas have the same tables. -/
theorem tableSteps_eq_nil_iff (hfits : matching.Fits old new) :
    (renameSteps matching = [] ∧ tableCreations matching old new = [] ∧
        tableDrops matching old new = []) ↔
      ∀ name, name ∈ old.tables.names ↔ name ∈ new.tables.names := by
  have hcreations : tableCreations matching old new = [] ↔
      ∀ entry ∈ new.tables.entries, formerColumns? matching old entry.1 ≠ none := by
    simp [tableCreations, tableCreation]
  have hdrops : tableDrops matching old new = [] ↔
      ∀ name ∈ old.tables.names, isKept matching new name = true := by
    simp [tableDrops, tableDrop]
  rw [hcreations, hdrops, renameSteps, List.map_eq_nil_iff]
  constructor
  · -- without renames a table is kept or was there only under its own name
    rintro ⟨hrenames, hcreated, hdropped⟩ name
    constructor
    · intro hold
      simpa [Matching.isKept_iff, Matching.renamedSources, hrenames] using hdropped name hold
    · intro hnew
      obtain ⟨entry, hentry, rfl⟩ := List.mem_map.mp hnew
      have hformer := mt (hfits.formerColumns?_eq_none_iff entry.1).mpr (hcreated entry hentry)
      simpa [Matching.renamedTargets, hrenames] using hformer
  · intro hnames
    refine ⟨hfits.renames_eq_nil hnames, fun entry hentry hnone => ?_, fun name hold => ?_⟩
    · have hnew := Catalog.mem_names_of_mem hentry
      exact ((hfits.formerColumns?_eq_none_iff entry.1).mp hnone).1 ((hnames entry.1).mpr hnew)
    · exact (Matching.isKept_iff name).mpr (.inl ((hnames name).mp hold))

/-- **The phases are all empty exactly when nothing changed.** -/
theorem planSteps_eq_nil_iff (hfits : matching.Fits old new) (hold : old.ColumnsDistinct)
    (hnew : new.ColumnsDistinct) : planSteps matching old new = [] ↔ old.Unchanged new := by
  have htables := tableSteps_eq_nil_iff hfits
  -- the table names come first: only with the same names is each table compared with itself
  have hkept : (∀ name, name ∈ old.tables.names ↔ name ∈ new.tables.names) →
      (new.tables.entries.flatMap (keptSteps matching old) = [] ↔
        ∀ entry ∈ new.tables.entries, ∀ former, old.tables.get? entry.1 = some former →
          SameColumns former entry.2) := by
    intro hnames
    rw [List.flatMap_eq_nil_iff]
    refine forall₂_congr fun entry hentry => ?_
    have hformer := hfits.formerColumns?_of_mem
      ((hnames entry.1).mpr (Catalog.mem_names_of_mem hentry))
    unfold keptSteps
    rw [hformer]
    cases hget : old.tables.get? entry.1 with
    | none => simp
    | some former => simp [columnSteps_eq_nil_iff (hold.of_get? hget) (hnew entry hentry)]
  simp only [planSteps, List.append_eq_nil_iff, typeChanges_eq_nil_iff, typeCreations_eq_nil_iff]
  constructor
  · rintro ⟨⟨⟨⟨⟨htypes, hrenames⟩, hchanges⟩, hcreated⟩, hcreations⟩, hdrops⟩
    have hnames := htables.mp ⟨hrenames, hcreations, hdrops⟩
    refine ⟨hnames, ?_, ?_, ?_⟩
    · intro name former columns hformer hcolumns
      exact (hkept hnames).mp hchanges (name, columns)
        ((new.tables.get?_eq_some_iff name columns).mp hcolumns) former hformer
    · intro name former definition hformer hdefinition
      exact htypes (name, definition)
        ((new.types.get?_eq_some_iff name definition).mp hdefinition) former hformer
    · intro name definition hnone hdefinition
      exact hcreated (name, definition)
        ((new.types.get?_eq_some_iff name definition).mp hdefinition) hnone
  · intro h
    obtain ⟨hrenames, hcreations, hdrops⟩ := htables.mpr h.table_names
    refine ⟨⟨⟨⟨⟨?_, hrenames⟩, ?_⟩, ?_⟩, hcreations⟩, hdrops⟩
    · intro entry hentry former hformer
      exact h.common_types entry.1 former entry.2 hformer (new.types.get?_of_mem hentry)
    · refine (hkept h.table_names).mpr fun entry hentry former hformer => ?_
      exact h.table_columns entry.1 former entry.2 hformer (new.tables.get?_of_mem hentry)
    · intro entry hentry hnone
      exact h.new_types entry.1 entry.2 hnone (new.types.get?_of_mem hentry)

/-- An unchanged schema has no new column at all, so none that cannot be filled. -/
theorem Schema.Unchanged.allFillable (h : old.Unchanged new) (hfits : matching.Fits old new) :
    AllFillable matching old new.tables.entries := by
  intro entry hentry former hformer column hcolumn
  have hname := (h.table_names entry.1).mpr (Catalog.mem_names_of_mem hentry)
  rw [hfits.formerColumns?_of_mem hname] at hformer
  have hsame := h.table_columns entry.1 former entry.2 hformer (new.tables.get?_of_mem hentry)
  obtain ⟨hmem, hmissing⟩ := List.mem_filter.mp hcolumn
  obtain ⟨other, hother, hagrees⟩ := hsame.2 column hmem
  have hdeclared : Column.declares former column.name = true :=
    (Column.declares_iff former column.name).mpr (List.mem_map.mpr ⟨other, hother, hagrees.name⟩)
  rw [hdeclared] at hmissing
  cases hmissing

/-- A schema **reorders** another one when it declares the same types and the same tables, and the
columns of each table are the same up to their order. -/
structure Schema.Reorders (old new : Schema) : Prop where
  /-- The same types are declared. -/
  types : ∀ name, old.types.get? name = new.types.get? name
  /-- The same tables are declared, with the same columns in some order. -/
  tables : ∀ name, Option.Rel List.Perm (old.tables.get? name) (new.tables.get? name)

/-- Every schema is a reordering of itself. -/
theorem Schema.Reorders.refl (schema : Schema) : schema.Reorders schema where
  types _ := rfl
  tables name := by
    cases schema.tables.get? name with
    | none => exact .none
    | some columns => exact .some (.refl columns)

/-- Nothing changed in a schema that is only reordered. -/
theorem Schema.Reorders.unchanged (h : old.Reorders new) : old.Unchanged new where
  table_names name := by
    rw [← Catalog.exists_get?_iff, ← Catalog.exists_get?_iff]
    have hrel := h.tables name
    generalize old.tables.get? name = former, new.tables.get? name = columns at hrel
    cases hrel <;> simp
  table_columns name former columns hformer hcolumns := by
    have hrel := h.tables name
    rw [hformer, hcolumns] at hrel
    cases hrel with
    | some hperm => exact .of_perm hperm
  common_types name former definition hformer hdefinition := by
    rw [h.types name, hdefinition, Option.some.injEq] at hformer
    exact hformer.symm
  new_types name definition hnone hdefinition := by
    rw [h.types name, hdefinition] at hnone
    cases hnone

/-- **No change is lost and no step is spurious.** A plan is empty exactly when the new schema
declares what the old one declares; in particular it is empty from a schema to the same schema with
its types, tables and columns in another order, or in the same one. -/
theorem plan_eq_nil_iff (options : MatchOptions) (old new : Schema) (hold : old.ColumnsDistinct)
    (hnew : new.ColumnsDistinct) :
    (plan options old new = .ok [] ↔ old.Unchanged new) ∧
      (old.Reorders new → plan options old new = .ok []) ∧ plan options old old = .ok [] := by
  have hiff : ∀ new : Schema, new.ColumnsDistinct →
      (plan options old new = .ok [] ↔ old.Unchanged new) := fun new hnew => by
    have hfits := Matching.ofSchemas_fits options old new
    rw [plan_eq_ok_iff, eq_comm, planSteps_eq_nil_iff hfits hold hnew]
    exact ⟨fun h => h.2, fun h => ⟨h.allFillable hfits, h⟩⟩
  exact ⟨hiff new hnew, fun h => (hiff new hnew).mpr h.unchanged,
    (hiff old hold).mpr (Schema.Reorders.refl old).unchanged⟩

/-- The first sample schema with its tables and the columns of one table in another order. -/
def Sample.shuffled : Schema where
  types := Sample.before.types
  tables := .ofList
    [("log", [plain "at" "DATE"]),
    ("person", [⟨"age", "INT", false, some "0"⟩, plain "id" "INT PRIMARY KEY",
      ⟨"name", "TEXT", true, none⟩]),
    ("legacy", [plain "id" "INT", plain "mail" "TEXT", plain "fax" "TEXT", plain "pager" "TEXT",
      plain "telex" "TEXT"])]

/-- The empty plan between the two shows that nothing changed. -/
theorem sample_shuffled_unchanged :
    Sample.before.ColumnsDistinct ∧ Sample.shuffled.ColumnsDistinct ∧
      plan .standard Sample.before Sample.shuffled = .ok [] ∧
      Sample.before.Unchanged Sample.shuffled := by
  have hbefore : Sample.before.ColumnsDistinct := by decide +kernel
  have hshuffled : Sample.shuffled.ColumnsDistinct := by decide +kernel
  have hplan : plan .standard Sample.before Sample.shuffled = .ok [] := by decide +kernel
  exact ⟨hbefore, hshuffled, hplan,
    (plan_eq_nil_iff .standard Sample.before Sample.shuffled hbefore hshuffled).1.mp hplan⟩

end SchemaEvolution
