import SchemaEvolution.Declaration.Statement
import SchemaEvolution.Proofs.Catalog

/-! # Catalogs and schemas that override others
A catalog is **overridden** by another one when the entries of the other are declared after its own:
names that both list stay in their places and take the later values, and new names come last. Since
the later value counts, it does not matter whether a declaration is made after overriding or in the
later catalog before. -/

namespace SchemaEvolution

namespace Catalog

variable {α : Type}

/-- Catalogs that list the same names in the same order, with the same values, are the same. -/
theorem ext_get? {left right : Catalog α} (hnames : left.names = right.names)
    (hvalues : ∀ name, left.get? name = right.get? name) : left = right := by
  have hlength : left.entries.length = right.entries.length := by
    simpa [names] using congrArg List.length hnames
  refine ext_entries (List.ext_getElem hlength fun i hleft hright => ?_)
  have hname : left.entries[i].1 = right.entries[i].1 := by
    have hget := congrArg (fun listed => listed[i]?) hnames
    simpa [names, hleft, hright] using hget
  -- under the name at this place both list the same value
  have hvalue := left.get?_of_mem (List.getElem_mem hleft)
  rw [hname, hvalues, right.get?_of_mem (List.getElem_mem hright), Option.some.injEq] at hvalue
  exact Prod.ext hname hvalue.symm

/-- The names after a list of declarations: those from before, then the new ones in order. -/
theorem names_foldl_insert {entries : List (String × α)} (hnodup : (entries.map Prod.fst).Nodup)
    (catalog : Catalog α) :
    (entries.foldl (fun catalog entry => catalog.insert entry.1 entry.2) catalog).names =
      catalog.names ++ (entries.map Prod.fst).filter fun name => name ∉ catalog.names := by
  induction entries generalizing catalog with
  | nil => simp
  | cons entry rest ih =>
    rw [List.map_cons, List.nodup_cons] at hnodup
    rw [List.foldl_cons, ih hnodup.2, names_insert, List.map_cons, List.filter_cons]
    by_cases hlisted : entry.1 ∈ catalog.names
    · have hskipped : ¬decide (entry.1 ∉ catalog.names) = true := by simp [hlisted]
      rw [if_pos hlisted, if_neg hskipped]
    · -- the name of the entry is new, and no later entry has it
      have hrest : (rest.map Prod.fst).filter (fun name => name ∉ catalog.names ++ [entry.1]) =
          (rest.map Prod.fst).filter fun name => name ∉ catalog.names := by
        refine List.filter_congr fun name hname => ?_
        have hne : name ≠ entry.1 := fun e => hnodup.1 (e ▸ hname)
        simp [hne]
      rw [if_neg hlisted, hrest, if_pos (decide_eq_true hlisted), List.append_assoc,
        List.singleton_append]

/-- The value under a name after a list of declarations: the declared one, or the one from
before. -/
theorem get?_foldl_insert {entries : List (String × α)} (hnodup : (entries.map Prod.fst).Nodup)
    (catalog : Catalog α) (name : String) :
    (entries.foldl (fun catalog entry => catalog.insert entry.1 entry.2) catalog).get? name =
      (lookup name entries).or (catalog.get? name) := by
  induction entries generalizing catalog with
  | nil => rfl
  | cons entry rest ih =>
    rw [List.map_cons, List.nodup_cons] at hnodup
    rw [List.foldl_cons, ih hnodup.2, get?_insert, lookup_cons]
    by_cases hname : entry.1 = name
    · subst hname
      rw [if_pos rfl, if_pos rfl, (lookup_eq_none_iff entry.1 rest).mpr hnodup.1, Option.none_or,
        Option.some_or]
    · rw [if_neg hname, if_neg hname]

/-- The catalog after the entries of a later one are declared, in their order. -/
def override (former later : Catalog α) : Catalog α :=
  later.entries.foldl (fun catalog entry => catalog.insert entry.1 entry.2) former

/-- The empty catalog overrides nothing. -/
@[simp] theorem override_empty (former : Catalog α) : former.override empty = former := rfl

/-- What it means that a catalog is the result of overriding one catalog by another. -/
structure Overrides (former later result : Catalog α) : Prop where
  /-- The names of the former catalog are in their places, and those that only the later one lists
  come last, in its order. -/
  names : result.names = former.names ++ later.names.filter fun name => name ∉ former.names
  /-- A name has the later value, or the former one where the later catalog does not list it. -/
  value : ∀ name, result.get? name = (later.get? name).or (former.get? name)

/-- **Overriding** keeps the places of names and takes the later values. -/
theorem overrides_override (former later : Catalog α) :
    Overrides former later (former.override later) where
  names := names_foldl_insert later.nodup_names former
  value := get?_foldl_insert later.nodup_names former

/-- A declaration after overriding is a declaration in the later catalog. -/
theorem insert_override (former later : Catalog α) (name : String) (value : α) :
    (former.override later).insert name value = former.override (later.insert name value) := by
  have hbefore := overrides_override former later
  have hafter := overrides_override former (later.insert name value)
  refine ext_get? ?_ fun other => ?_
  · rw [hafter.names, names_insert, names_insert, hbefore.names]
    by_cases hlater : name ∈ later.names
    · by_cases hformer : name ∈ former.names <;> simp [hlater, hformer]
    · by_cases hformer : name ∈ former.names <;> simp [hlater, hformer, List.filter_append]
  · rw [hafter.value, get?_insert, get?_insert, hbefore.value]
    by_cases hname : name = other <;> simp [hname]

end Catalog

namespace Schema

/-- The schema after the types and tables of a later one are declared, in their order. -/
def override (former later : Schema) : Schema :=
  ⟨former.types.override later.types, former.tables.override later.tables⟩

/-- The empty schema overrides nothing. -/
@[simp] theorem override_empty (former : Schema) : former.override empty = former := rfl

/-- A statement after overriding is a statement of the later schema. -/
theorem declare_override (former later : Schema) (statement : Statement) :
    (former.override later).declare statement = former.override (later.declare statement) := by
  cases statement with
  | createType name definition =>
    exact congrArg (Schema.mk · _) (Catalog.insert_override _ _ name definition)
  | createTable name columns =>
    exact congrArg (Schema.mk _ ·) (Catalog.insert_override _ _ name columns)
  | other => rfl

end Schema

end SchemaEvolution
