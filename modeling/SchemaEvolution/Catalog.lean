/-! # Catalogs
A **catalog** lists named entries in the order in which their names first appeared, each name once.
Declaring a name again replaces its entry and leaves it in its place. -/

namespace SchemaEvolution

/-- Named entries in order of first appearance, each name once. -/
structure Catalog (α : Type) where
  /-- The entries with their names, in order. -/
  entries : List (String × α)
  /-- No name is listed twice. -/
  nodup_names : (entries.map Prod.fst).Nodup
  deriving DecidableEq

namespace Catalog

variable {α : Type}

/-! ## Entry lists -/

/-- The entry list after a declaration: an entry of that name is replaced, a new name comes last. -/
def insertEntry (name : String) (value : α) : List (String × α) → List (String × α)
  | [] => [(name, value)]
  | entry :: rest =>
    if entry.1 = name then (name, value) :: rest else entry :: insertEntry name value rest

/-- The first declaration makes the only entry. -/
@[simp] theorem insertEntry_nil (name : String) (value : α) :
    insertEntry name value [] = [(name, value)] := rfl

/-- The first entry is replaced when it has the declared name, and passed over otherwise. -/
theorem insertEntry_cons (name : String) (value : α) (entry : String × α)
    (rest : List (String × α)) :
    insertEntry name value (entry :: rest) =
      if entry.1 = name then (name, value) :: rest else entry :: insertEntry name value rest := rfl

/-- A declaration keeps the names and their order, and puts a new name last. -/
theorem map_fst_insertEntry (name : String) (value : α) (entries : List (String × α)) :
    (insertEntry name value entries).map Prod.fst =
      if name ∈ entries.map Prod.fst then entries.map Prod.fst
      else entries.map Prod.fst ++ [name] := by
  induction entries with
  | nil => simp
  | cons entry rest ih =>
    by_cases h : entry.1 = name
    · simp [insertEntry_cons, h]
    · have h' : name ≠ entry.1 := fun e => h e.symm
      rw [insertEntry_cons, if_neg h, List.map_cons, ih]
      by_cases hm : name ∈ rest.map Prod.fst
      · simp [hm]
      · simp [hm, h']

/-- The value listed under a name. -/
def lookup (name : String) : List (String × α) → Option α
  | [] => none
  | entry :: rest => if entry.1 = name then some entry.2 else lookup name rest

/-- Nothing is found in an empty list. -/
@[simp] theorem lookup_nil (name : String) : lookup name ([] : List (String × α)) = none := rfl

/-- The first entry is found under its name; under any other name the search goes on. -/
theorem lookup_cons (name : String) (entry : String × α) (rest : List (String × α)) :
    lookup name (entry :: rest) = if entry.1 = name then some entry.2 else lookup name rest := rfl

/-- A declared name has the declared value and every other name has the value it had. -/
theorem lookup_insertEntry (name other : String) (value : α) (entries : List (String × α)) :
    lookup other (insertEntry name value entries) =
      if name = other then some value else lookup other entries := by
  induction entries with
  | nil => simp [lookup]
  | cons entry rest ih =>
    by_cases h : entry.1 = name
    · subst h
      by_cases ho : entry.1 = other <;> simp [insertEntry_cons, lookup_cons, ho]
    · by_cases ho : name = other
      · subst ho
        simp [insertEntry_cons, lookup_cons, h, ih]
      · simp [insertEntry_cons, lookup_cons, h, ih, ho]

/-- A value is found exactly under the names that are listed. -/
theorem lookup_isSome_iff (name : String) (entries : List (String × α)) :
    (lookup name entries).isSome = true ↔ name ∈ entries.map Prod.fst := by
  induction entries with
  | nil => simp
  | cons entry rest ih =>
    by_cases h : entry.1 = name
    · simp [lookup_cons, h]
    · have h' : name ≠ entry.1 := fun e => h e.symm
      simp [lookup_cons, h, h', ih]

/-! ## Operations -/

/-- The catalog without entries. -/
def empty : Catalog α := ⟨[], List.nodup_nil⟩

instance : Inhabited (Catalog α) := ⟨empty⟩

/-- The names, in order of first appearance. -/
def names (catalog : Catalog α) : List String := catalog.entries.map Prod.fst

/-- Declare an entry. A name that is there already keeps its place and takes the new value. -/
def insert (catalog : Catalog α) (name : String) (value : α) : Catalog α where
  entries := insertEntry name value catalog.entries
  nodup_names := by
    rw [map_fst_insertEntry]
    split
    · exact catalog.nodup_names
    · next h =>
      refine List.nodup_append.mpr ⟨catalog.nodup_names, by simp, ?_⟩
      intro a ha b hb
      rw [List.mem_singleton] at hb
      subst hb
      exact fun e => h (e ▸ ha)

/-- The value listed under a name. -/
def get? (catalog : Catalog α) (name : String) : Option α := lookup name catalog.entries

/-- Whether a name is listed. -/
def contains (catalog : Catalog α) (name : String) : Bool := (catalog.get? name).isSome

/-- Whether no name is listed. -/
def isEmpty (catalog : Catalog α) : Bool := catalog.entries.isEmpty

/-- The catalog of a list of declarations, made one after the other. -/
def ofList (declarations : List (String × α)) : Catalog α :=
  declarations.foldl (fun catalog declaration => catalog.insert declaration.1 declaration.2) empty

/-- Whether two catalogs list the same entries, in whatever order. -/
def sameEntries [DecidableEq α] (left right : Catalog α) : Bool :=
  left.entries.length == right.entries.length &&
    left.entries.all fun entry => right.get? entry.1 == some entry.2

/-- The empty catalog has no names. -/
@[simp] theorem names_empty : (empty : Catalog α).names = [] := rfl

/-- The empty catalog has no values. -/
@[simp] theorem get?_empty (name : String) : (empty : Catalog α).get? name = none := rfl

/-- The empty catalog is empty. -/
@[simp] theorem isEmpty_empty : (empty : Catalog α).isEmpty = true := rfl

/-- No name is listed in the catalog without entries only. -/
theorem isEmpty_iff (catalog : Catalog α) : catalog.isEmpty = true ↔ catalog = empty := by
  cases catalog with
  | mk entries hnodup => simp [isEmpty, empty]

/-- A declaration keeps the names and their order, and puts a new name last. -/
theorem names_insert (catalog : Catalog α) (name : String) (value : α) :
    (catalog.insert name value).names =
      if name ∈ catalog.names then catalog.names else catalog.names ++ [name] :=
  map_fst_insertEntry name value catalog.entries

/-- A declared name has the declared value and every other name has the value it had. -/
theorem get?_insert (catalog : Catalog α) (name other : String) (value : α) :
    (catalog.insert name value).get? other =
      if name = other then some value else catalog.get? other :=
  lookup_insertEntry name other value catalog.entries

/-- The value declared last under a name is the one that counts. -/
@[simp] theorem get?_insert_self (catalog : Catalog α) (name : String) (value : α) :
    (catalog.insert name value).get? name = some value := by
  simp [get?_insert]

/-- The names that are found are those that are listed. -/
theorem contains_iff (catalog : Catalog α) (name : String) :
    catalog.contains name = true ↔ name ∈ catalog.names :=
  lookup_isSome_iff name catalog.entries

/-- No name is listed twice. -/
theorem nodup (catalog : Catalog α) : catalog.names.Nodup := catalog.nodup_names

end Catalog

end SchemaEvolution
