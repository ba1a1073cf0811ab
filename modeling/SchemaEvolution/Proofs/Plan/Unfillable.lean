import SchemaEvolution.Proofs.Plan.Phases

/-! # Columns that cannot be filled
A plan fails on one kind of change only: a table that stays gets a column that forbids null, has no
default and was not there before. The cause is the **first** such column of the first such table, in
the order of the new schema. Whether a table stays is settled before by the renames, and nothing
that a plan does otherwise, conflicts of types included, hides or replaces the cause. -/

namespace SchemaEvolution

/-! ## First elements -/

/-- An element of a list is the **first** one with a property when none in front of it has it. -/
def IsFirst {α : Type} (p : α → Prop) (xs : List α) (x : α) : Prop :=
  p x ∧ ∃ front back, xs = front ++ x :: back ∧ ∀ y ∈ front, ¬p y

section IsFirst

variable {α : Type} {p : α → Prop} {x y : α} {xs : List α}

/-- Nothing is the first in an empty list. -/
theorem not_isFirst_nil : ¬IsFirst p [] x := by
  rintro ⟨-, front, back, hnil, -⟩
  cases front <;> cases hnil

/-- The first element with a property stands at the head or is the first one behind it. -/
theorem isFirst_cons :
    IsFirst p (y :: xs) x ↔ p y ∧ x = y ∨ ¬p y ∧ IsFirst p xs x := by
  constructor
  · rintro ⟨hx, front, back, hsplit, hfront⟩
    cases front with
    | nil =>
      obtain ⟨rfl, -⟩ := List.cons.inj hsplit
      exact .inl ⟨hx, rfl⟩
    | cons first front =>
      obtain ⟨rfl, hrest⟩ := List.cons.inj hsplit
      rw [List.forall_mem_cons] at hfront
      exact .inr ⟨hfront.1, hx, front, back, hrest, hfront.2⟩
  · rintro (⟨hy, rfl⟩ | ⟨hy, hx, front, back, rfl, hfront⟩)
    · exact ⟨hy, [], xs, rfl, fun _ hmem => by cases hmem⟩
    · refine ⟨hx, y :: front, back, rfl, ?_⟩
      rw [List.forall_mem_cons]
      exact ⟨hy, hfront⟩

/-- The first element with a property is in the list. -/
theorem IsFirst.mem (h : IsFirst p xs x) : x ∈ xs := by
  obtain ⟨-, front, back, rfl, -⟩ := h
  exact List.mem_append_right front List.mem_cons_self

/-- Where some element has a property, there is a first one. -/
theorem exists_isFirst_iff : (∃ x, IsFirst p xs x) ↔ ∃ x ∈ xs, p x := by
  constructor
  · rintro ⟨x, hx⟩
    exact ⟨x, hx.mem, hx.1⟩
  · intro h
    induction xs with
    | nil =>
      obtain ⟨x, hmem, -⟩ := h
      cases hmem
    | cons y xs ih =>
      by_cases hy : p y
      · exact ⟨y, isFirst_cons.mpr (.inl ⟨hy, rfl⟩)⟩
      · -- the head does not have the property, so the element is behind it
        obtain ⟨x, hmem, hx⟩ := h
        have hrest : x ∈ xs := (List.mem_cons.mp hmem).resolve_left fun e => hy (e ▸ hx)
        obtain ⟨first, hfirst⟩ := ih ⟨x, hrest, hx⟩
        exact ⟨first, isFirst_cons.mpr (.inr ⟨hy, hfirst⟩)⟩

/-- Searching a list finds the first element that passes the test. -/
theorem find?_eq_some_iff_isFirst {test : α → Bool} :
    xs.find? test = some x ↔ IsFirst (fun y => test y = true) xs x := by
  simp only [List.find?_eq_some_iff_append, IsFirst, Bool.not_eq_true', Bool.not_eq_true]

end IsFirst

/-! ## Tables that stay -/

/-- The columns that a table of the new schema is compared with: those of the old table of its name,
or, where there is none, of the old table that is **renamed** to it. -/
def MatchedWith (options : MatchOptions) (old new : Schema) (table : String)
    (former : List Column) : Prop :=
  old.tables.get? table = some former ∨
    old.tables.get? table = none ∧
      ∃ source, (source, table) ∈ (Matching.ofSchemas options old new).renames ∧
        old.tables.get? source = some former

variable {options : MatchOptions} {old new : Schema}

/-- The columns from before are those of the old table that the table is matched with. -/
theorem formerColumns?_eq_some_iff (table : String) (former : List Column) :
    formerColumns? (Matching.ofSchemas options old new) old table = some former ↔
      MatchedWith options old new table former := by
  have hfits := Matching.ofSchemas_fits options old new
  constructor
  · intro h
    cases hown : old.tables.get? table with
    | some columns =>
      rw [hfits.formerColumns?_of_mem (Catalog.mem_names_of_get? hown), hown] at h
      exact .inl (hown.trans h)
    | none =>
      -- without an old table of its name the table is found by the rename that leads to it
      refine .inr ⟨hown, ?_⟩
      rw [formerColumns?] at h
      cases hfrom : (Matching.ofSchemas options old new).renamedFrom? table with
      | none =>
        rw [hfrom, Option.getD_none, hown] at h
        cases h
      | some source =>
        rw [hfrom] at h
        exact ⟨source, Matching.mem_renames_of_renamedFrom? hfrom, h⟩
  · rintro (hown | ⟨-, source, hpair, hsource⟩)
    · rw [hfits.formerColumns?_of_mem (Catalog.mem_names_of_get? hown), hown]
    · rw [hfits.formerColumns?_of_mem_renames hpair, hsource]

/-! ## Unfillable columns -/

/-- A column **cannot be filled** in the rows of a table: it forbids null, has no default, and the
table did not have it. -/
def Column.Unfilled (former : List Column) (column : Column) : Prop :=
  column.notNull = true ∧ column.defaultValue = none ∧ column.name ∉ former.map Column.name

/-- A table of the new schema **gets** a column that cannot be filled in the table that it is
matched with. -/
def GetsUnfilled (options : MatchOptions) (old new : Schema) (table : NamedTable) : Prop :=
  ∃ former, MatchedWith options old new table.1 former ∧ ∃ column ∈ table.2, column.Unfilled former

/-- The test of a comparison says which columns cannot be filled. -/
theorem unfilled_iff (former : List Column) (column : Column) :
    (!Column.declares former column.name) = true ∧ column.isUnfillable = true ↔
      column.Unfilled former := by
  rw [Bool.not_eq_true', Column.declares_eq_false_iff, Column.isUnfillable, Bool.and_eq_true,
    Option.isNone_iff_eq_none, Column.Unfilled]
  constructor
  · rintro ⟨hname, hnull, hdefault⟩
    exact ⟨hnull, hdefault, hname⟩
  · rintro ⟨hnull, hdefault, hname⟩
    exact ⟨hname, hnull, hdefault⟩

/-- **The comparison of two column lists fails on the first column that cannot be filled.** -/
theorem tableChanges_eq_error_iff (table : String) (former columns : List Column)
    (cause : UnfillableColumn) :
    tableChanges table former columns = .error cause ↔
      ∃ column, IsFirst (Column.Unfilled former) columns column ∧
        cause = ⟨table, column.name⟩ := by
  have hfind : ∀ column, (columnsMissingFrom columns former).find? Column.isUnfillable =
      some column ↔ IsFirst (Column.Unfilled former) columns column := by
    intro column
    rw [columnsMissingFrom, List.find?_filter, find?_eq_some_iff_isFirst]
    simp only [decide_eq_true_eq, unfilled_iff]
  simp only [tableChanges, ← hfind]
  cases (columnsMissingFrom columns former).find? Column.isUnfillable with
  | none => simp
  | some column => simp [eq_comm]

/-- The comparison of a table fails. -/
def Refused (matching : Matching) (old : Schema) (table : NamedTable) : Prop :=
  ∃ former cause, formerColumns? matching old table.1 = some former ∧
    tableChanges table.1 former table.2 = .error cause

/-- **The comparison of all tables fails as the first table does whose comparison fails.** -/
theorem keptTableChanges_eq_error_iff (matching : Matching) (old : Schema)
    (tables : List NamedTable) (cause : UnfillableColumn) :
    keptTableChanges matching old tables = .error cause ↔
      ∃ table, IsFirst (Refused matching old) tables table ∧
        ∃ former, formerColumns? matching old table.1 = some former ∧
          tableChanges table.1 former table.2 = .error cause := by
  induction tables with
  | nil => simp [keptTableChanges, not_isFirst_nil]
  | cons head rest ih =>
    obtain ⟨name, columns⟩ := head
    simp only [isFirst_cons]
    rw [keptTableChanges]
    cases hformer : formerColumns? matching old name with
    | none =>
      have hhead : ¬Refused matching old (name, columns) := by
        rintro ⟨former, cause, hsome, -⟩
        rw [hformer] at hsome
        cases hsome
      simp only [hhead, false_and, not_false_eq_true, true_and, false_or]
      exact ih
    | some former =>
      cases hfirst : tableChanges name former columns with
      | error given =>
        -- the first table is refused, and the rest is not looked at
        have hhead : Refused matching old (name, columns) := ⟨former, given, hformer, hfirst⟩
        simp only [hhead, true_and, not_true_eq_false, false_and, or_false, exists_eq_left,
          hformer, Option.some.injEq, exists_eq_left', hfirst]
        exact Iff.rfl
      | ok changes =>
        have hhead : ¬Refused matching old (name, columns) := by
          rintro ⟨other, cause, hsome, herror⟩
          obtain rfl := Option.some.inj (hformer.symm.trans hsome)
          rw [hfirst] at herror
          cases herror
        simp only [hhead, false_and, not_false_eq_true, true_and, false_or]
        rw [← ih]
        simp only [bind_eq_error_iff, pure_ne_error, and_false, exists_false, or_false, hfirst,
          reduceCtorEq, false_or, Except.ok.injEq, exists_eq_left']

/-! ## Plans -/

/-- A table is refused exactly when it gets a column that cannot be filled. -/
theorem refused_iff (table : NamedTable) :
    Refused (Matching.ofSchemas options old new) old table ↔
      GetsUnfilled options old new table := by
  simp only [Refused, GetsUnfilled, formerColumns?_eq_some_iff, tableChanges_eq_error_iff,
    ← exists_isFirst_iff]
  constructor
  · rintro ⟨former, cause, hmatched, column, hfirst, -⟩
    exact ⟨former, hmatched, column, hfirst⟩
  · rintro ⟨former, hmatched, column, hfirst⟩
    exact ⟨former, _, hmatched, column, hfirst, rfl⟩

/-- The column that is **to blame**: the first one that cannot be filled, in the first table that
gets such a column. -/
def ToBlame (options : MatchOptions) (old new : Schema) (cause : UnfillableColumn) : Prop :=
  ∃ table, IsFirst (GetsUnfilled options old new) new.tables.entries table ∧
    ∃ former, MatchedWith options old new table.1 former ∧
      ∃ column, IsFirst (Column.Unfilled former) table.2 column ∧ cause = ⟨table.1, column.name⟩

/-- A plan fails exactly as the comparison of the tables that stay does. -/
theorem plan_eq_error_iff_toBlame (cause : UnfillableColumn) :
    plan options old new = .error cause ↔ ToBlame options old new cause := by
  have hrefused : Refused (Matching.ofSchemas options old new) old = GetsUnfilled options old new :=
    funext fun table => propext (refused_iff table)
  simp only [plan, bind_eq_error_iff, pure_ne_error, and_false, exists_false, or_false,
    keptTableChanges_eq_error_iff, hrefused, formerColumns?_eq_some_iff, tableChanges_eq_error_iff,
    ToBlame]

/-- **A plan fails exactly on a column that cannot be filled.** There is no plan if and only if some
table gets a column that cannot be filled in the old table that it is matched with. The cause is
then the first such column of the first such table, and never a column of a table that is matched
with none. -/
theorem plan_error_iff (options : MatchOptions) (old new : Schema) :
    ((∃ cause, plan options old new = .error cause) ↔
      ∃ table ∈ new.tables.entries, GetsUnfilled options old new table) ∧
    (∀ cause, plan options old new = .error cause ↔ ToBlame options old new cause) ∧
    ∀ table, (∀ former, ¬MatchedWith options old new table former) →
      ∀ column, plan options old new ≠ .error ⟨table, column⟩ := by
  refine ⟨?_, plan_eq_error_iff_toBlame, ?_⟩
  · simp only [plan_eq_error_iff_toBlame]
    constructor
    · rintro ⟨cause, table, hfirst, -⟩
      exact ⟨table, hfirst.mem, hfirst.1⟩
    · intro h
      obtain ⟨table, hfirst⟩ := exists_isFirst_iff.mpr h
      obtain ⟨former, hmatched, hcolumn⟩ := hfirst.1
      obtain ⟨column, hcolumn⟩ := exists_isFirst_iff.mpr hcolumn
      exact ⟨_, table, hfirst, former, hmatched, column, hcolumn, rfl⟩
  · intro table hunmatched column herror
    obtain ⟨found, -, former, hmatched, other, -, hcause⟩ :=
      (plan_eq_error_iff_toBlame _).mp herror
    obtain ⟨rfl, -⟩ := UnfillableColumn.mk.inj hcause
    exact hunmatched former hmatched

namespace Sample

/-- A schema with a table that is renamed and one that stays. -/
def staffed : Schema where
  types := .empty
  tables := .ofList
    [("log", [plain "at" "DATE"]),
    ("person", [plain "id" "INT", plain "name" "TEXT", plain "age" "INT"])]

/-- The schema in which each table has a column that forbids null and has no default. The first
table is created, the second one renamed, and the third one stays. -/
def tracked : Schema where
  types := .empty
  tables := .ofList
    [("audit", [⟨"who", "TEXT", true, none⟩]),
    ("people", [plain "id" "INT", ⟨"mood", "TEXT", true, some "'ok'"⟩, ⟨"age", "INT", true, none⟩,
      ⟨"desk", "INT", true, none⟩, plain "name" "TEXT", ⟨"floor", "INT", true, none⟩]),
    ("log", [plain "at" "DATE", ⟨"level", "INT", true, none⟩])]

/-- The options under which the table of the sample is renamed. -/
def lenient : MatchOptions := { MatchOptions.standard with renameThreshold := 0.4 }

end Sample

/-- The sample fails on the first column that the renamed table cannot fill. The columns of the
created table, which is matched with none, and of the table that comes later do not matter. -/
theorem sample_to_blame :
    plan Sample.lenient Sample.staffed Sample.tracked = .error ⟨"people", "desk"⟩ ∧
      ToBlame Sample.lenient Sample.staffed Sample.tracked ⟨"people", "desk"⟩ ∧
      (∀ former, ¬MatchedWith Sample.lenient Sample.staffed Sample.tracked "audit" former) ∧
      ∀ column, plan Sample.lenient Sample.staffed Sample.tracked ≠ .error ⟨"audit", column⟩ := by
  have hplan : plan Sample.lenient Sample.staffed Sample.tracked = .error ⟨"people", "desk"⟩ := by
    decide +kernel
  have hnone : formerColumns? (Matching.ofSchemas Sample.lenient Sample.staffed Sample.tracked)
      Sample.staffed "audit" = none := by decide +kernel
  have hunmatched : ∀ former,
      ¬MatchedWith Sample.lenient Sample.staffed Sample.tracked "audit" former := by
    intro former
    rw [← formerColumns?_eq_some_iff, hnone]
    exact Option.some_ne_none former ∘ Eq.symm
  obtain ⟨-, hblame, hnever⟩ := plan_error_iff Sample.lenient Sample.staffed Sample.tracked
  exact ⟨hplan, (hblame _).mp hplan, hunmatched, hnever "audit" hunmatched⟩

end SchemaEvolution
