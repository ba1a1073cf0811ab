import SchemaEvolution.Schema
import Mathlib.Data.List.Nodup

/-! # Looking up in catalogs and column lists
Names are listed once, so looking a name up finds exactly the entry that is listed under it. The
same holds for the columns of a table whose column names are **distinct**. -/

namespace SchemaEvolution

namespace Catalog

variable {α : Type}

/-! ## Entry lists -/

/-- Looking up finds nothing exactly when the name is not listed. -/
theorem lookup_eq_none_iff (name : String) (entries : List (String × α)) :
    lookup name entries = none ↔ name ∉ entries.map Prod.fst := by
  rw [← lookup_isSome_iff, Bool.not_eq_true, Option.isSome_eq_false_iff, Option.isNone_iff_eq_none]

/-- **Looking up finds what is listed**, as long as no name is listed twice. -/
theorem lookup_eq_some_iff {entries : List (String × α)} (hnodup : (entries.map Prod.fst).Nodup)
    (name : String) (value : α) :
    lookup name entries = some value ↔ (name, value) ∈ entries := by
  induction entries with
  | nil => simp
  | cons entry rest ih =>
    rw [List.map_cons, List.nodup_cons] at hnodup
    rw [lookup_cons, List.mem_cons]
    by_cases h : entry.1 = name
    · -- the entry that is found first is the only one with its name
      subst h
      have hrest : (entry.1, value) ∉ rest := fun hm => hnodup.1 (List.mem_map.mpr ⟨_, hm, rfl⟩)
      simp [hrest, Prod.ext_iff, eq_comm]
    · have hne : (name, value) ≠ entry := fun e => h (e ▸ rfl)
      simp [h, hne, ih hnodup.2]

/-- Looking up among the entries whose names pass a test. -/
theorem lookup_filter (keep : String → Bool) (name : String) (entries : List (String × α)) :
    lookup name (entries.filter fun entry => keep entry.1) =
      if keep name then lookup name entries else none := by
  induction entries with
  | nil => simp
  | cons entry rest ih =>
    rw [List.filter_cons, lookup_cons]
    by_cases hname : entry.1 = name
    · subst hname
      by_cases hkeep : keep entry.1 <;> simp [hkeep, lookup_cons, ih]
    · by_cases hkeep : keep entry.1 <;> simp [hkeep, lookup_cons, hname, ih]

/-- A new name comes last. -/
theorem insertEntry_of_not_mem {name : String} {entries : List (String × α)}
    (hname : name ∉ entries.map Prod.fst) (value : α) :
    insertEntry name value entries = entries ++ [(name, value)] := by
  induction entries with
  | nil => rfl
  | cons entry rest ih =>
    rw [List.map_cons, List.mem_cons, not_or] at hname
    rw [insertEntry_cons, if_neg (Ne.symm hname.1), ih hname.2, List.cons_append]

/-! ## Catalogs -/

variable (catalog : Catalog α) (name : String)

/-- The value under a name is the one that is listed with it. -/
theorem get?_eq_some_iff (value : α) :
    catalog.get? name = some value ↔ (name, value) ∈ catalog.entries :=
  lookup_eq_some_iff catalog.nodup_names name value

/-- A listed entry is found. -/
theorem get?_of_mem {entry : String × α} (h : entry ∈ catalog.entries) :
    catalog.get? entry.1 = some entry.2 :=
  (catalog.get?_eq_some_iff entry.1 entry.2).mpr h

/-- There is no value under a name exactly when the name is not listed. -/
theorem get?_eq_none_iff : catalog.get? name = none ↔ name ∉ catalog.names :=
  lookup_eq_none_iff name catalog.entries

/-- Some value stands under a name exactly when the name is listed. -/
theorem exists_get?_iff : (∃ value, catalog.get? name = some value) ↔ name ∈ catalog.names := by
  rw [← contains_iff, contains, Option.isSome_iff_exists]

/-- A name under which a value stands is listed. -/
theorem mem_names_of_get? {catalog : Catalog α} {name : String} {value : α}
    (h : catalog.get? name = some value) : name ∈ catalog.names :=
  (catalog.exists_get?_iff name).mp ⟨value, h⟩

/-- The name of an entry is listed. -/
theorem mem_names_of_mem {catalog : Catalog α} {entry : String × α}
    (h : entry ∈ catalog.entries) : entry.1 ∈ catalog.names :=
  List.mem_map.mpr ⟨entry, h, rfl⟩

/-- A catalog does not contain a name exactly when the name is not listed. -/
theorem contains_eq_false_iff : catalog.contains name = false ↔ name ∉ catalog.names := by
  rw [← contains_iff, Bool.not_eq_true]

/-- Two catalogs with the same entries are the same. -/
theorem ext_entries {left right : Catalog α} (h : left.entries = right.entries) : left = right := by
  cases left
  cases right
  cases h
  rfl

/-! ## Rebuilding catalogs -/

/-- The catalog with a function applied to its values. -/
def mapValues {β : Type} (f : α → β) : Catalog β where
  entries := catalog.entries.map fun entry => (entry.1, f entry.2)
  nodup_names := by
    rw [List.map_map]
    exact catalog.nodup_names

/-- New names are listed behind those that are there, in the order of their declarations. -/
theorem entries_foldl_insert {entries : List (String × α)}
    (hnodup : (entries.map Prod.fst).Nodup) (catalog : Catalog α)
    (hnew : ∀ entry ∈ entries, entry.1 ∉ catalog.names) :
    (entries.foldl (fun catalog entry => catalog.insert entry.1 entry.2) catalog).entries =
      catalog.entries ++ entries := by
  induction entries generalizing catalog with
  | nil => simp
  | cons entry rest ih =>
    rw [List.map_cons, List.nodup_cons] at hnodup
    rw [List.forall_mem_cons] at hnew
    rw [List.foldl_cons, ih hnodup.2]
    · show insertEntry entry.1 entry.2 catalog.entries ++ rest = catalog.entries ++ entry :: rest
      rw [insertEntry_of_not_mem hnew.1, List.append_assoc, List.singleton_append]
    · -- the names that follow are still new
      intro other hother
      have hne : other.1 ≠ entry.1 := fun e => hnodup.1 (e ▸ List.mem_map_of_mem hother)
      rw [names_insert, if_neg hnew.1, List.mem_append, List.mem_singleton, not_or]
      exact ⟨hnew.2 other hother, hne⟩

/-- **Declaring the entries of a catalog** one after the other gives the catalog again. -/
theorem foldl_insert_entries :
    catalog.entries.foldl (fun catalog entry => catalog.insert entry.1 entry.2) empty = catalog :=
  ext_entries (entries_foldl_insert catalog.nodup_names empty fun _ _ => List.not_mem_nil)

end Catalog

/-! ## Columns -/

namespace Column

/-- The columns of a list have **distinct** names. -/
def Distinct (columns : List Column) : Prop := (columns.map Column.name).Nodup

instance (columns : List Column) : Decidable (Distinct columns) :=
  inferInstanceAs (Decidable (columns.map Column.name).Nodup)

/-- Columns are distinct when the first name does not come again and the others are distinct. -/
theorem distinct_cons (column : Column) (columns : List Column) :
    Distinct (column :: columns) ↔ column.name ∉ columns.map Column.name ∧ Distinct columns :=
  List.nodup_cons

/-- The columns behind the first one have other names than the first one. -/
theorem Distinct.name_ne {column other : Column} {columns : List Column}
    (h : Distinct (column :: columns)) (hother : other ∈ columns) : other.name ≠ column.name := by
  intro e
  exact ((distinct_cons column columns).mp h).1 (e ▸ List.mem_map_of_mem hother)

/-- Looking for a name finds nothing exactly when the list does not have it. -/
theorem find?_eq_none_iff (columns : List Column) (name : String) :
    find? columns name = none ↔ declares columns name = false := by
  rw [← isSome_find?, Option.isSome_eq_false_iff, Option.isNone_iff_eq_none]

/-- A name is not declared exactly when no column has it. -/
theorem declares_eq_false_iff (columns : List Column) (name : String) :
    declares columns name = false ↔ name ∉ columns.map Column.name := by
  rw [← declares_iff, Bool.not_eq_true]

/-- What is found is in the list and has the name that was looked for. -/
theorem mem_of_find? {columns : List Column} {name : String} {column : Column}
    (h : find? columns name = some column) : column ∈ columns ∧ column.name = name :=
  ⟨List.mem_of_find?_eq_some h, by simpa using List.find?_some h⟩

/-- Only a declared column is found. -/
theorem declares_of_find? {columns : List Column} {name : String} {column : Column}
    (h : find? columns name = some column) : declares columns name = true := by
  rw [← isSome_find?, h, Option.isSome_some]

/-- The first column is found under its name; under any other name the search goes on. -/
theorem find?_cons (column : Column) (columns : List Column) (name : String) :
    find? (column :: columns) name =
      if column.name = name then some column else find? columns name := by
  by_cases h : column.name = name <;> simp [find?, h]

end Column

/-! ## Schemas -/

namespace Schema

/-- No table of the schema repeats a column name. -/
def ColumnsDistinct (schema : Schema) : Prop :=
  ∀ table ∈ schema.tables.entries, Column.Distinct table.2

instance (schema : Schema) : Decidable schema.ColumnsDistinct :=
  inferInstanceAs (Decidable (∀ table ∈ schema.tables.entries, Column.Distinct table.2))

/-- The columns found under a table's name are distinct. -/
theorem ColumnsDistinct.of_get? {schema : Schema} (h : schema.ColumnsDistinct) {table : String}
    {columns : List Column} (hget : schema.tables.get? table = some columns) :
    Column.Distinct columns :=
  h (table, columns) ((schema.tables.get?_eq_some_iff table columns).mp hget)

/-- Every table of the schema has a column. -/
def TablesFilled (schema : Schema) : Prop := ∀ table ∈ schema.tables.entries, table.2 ≠ []

instance (schema : Schema) : Decidable schema.TablesFilled :=
  inferInstanceAs (Decidable (∀ table ∈ schema.tables.entries, table.2 ≠ []))

end Schema

end SchemaEvolution
