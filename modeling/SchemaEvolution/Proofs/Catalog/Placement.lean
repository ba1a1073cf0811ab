import SchemaEvolution.Proofs.Catalog
import Mathlib.Data.List.Perm.Basic

/-! # New entries at any place of a catalog
A new entry can be **placed** anywhere in the order of a catalog. Whatever its place is, every other
name keeps its value, and what a filter leaves out of the catalog does not depend on it. -/

namespace SchemaEvolution

namespace Catalog

variable {α β : Type}

/-- The catalog with a new entry **placed** at a position of its order; a position behind the last
one is the end. -/
def place (catalog : Catalog α) (position : Nat) (name : String) (value : α)
    (hname : name ∉ catalog.names) : Catalog α where
  entries := catalog.entries.take position ++ (name, value) :: catalog.entries.drop position
  nodup_names := by
    have hperm :
        (catalog.entries.take position ++ (name, value) :: catalog.entries.drop position).Perm
          ((name, value) :: catalog.entries) := by
      refine List.perm_middle.trans ?_
      rw [List.take_append_drop]
    rw [(hperm.map Prod.fst).nodup_iff, List.map_cons, List.nodup_cons]
    exact ⟨hname, catalog.nodup_names⟩

variable {catalog : Catalog α} {position : Nat} {name : String} {value : α}
  {hname : name ∉ catalog.names}

/-- The entries on the two sides of a placed one are those from before. -/
theorem exists_entries_place (catalog : Catalog α) (position : Nat) (name : String) (value : α)
    (hname : name ∉ catalog.names) :
    ∃ front back, catalog.entries = front ++ back ∧
      (catalog.place position name value hname).entries = front ++ (name, value) :: back :=
  ⟨_, _, (List.take_append_drop position catalog.entries).symm, rfl⟩

/-- The entries are the placed one and those that were there. -/
theorem mem_entries_place {entry : String × α} :
    entry ∈ (catalog.place position name value hname).entries ↔
      entry = (name, value) ∨ entry ∈ catalog.entries := by
  obtain ⟨front, back, hentries, hplaced⟩ := exists_entries_place catalog position name value hname
  rw [hplaced, hentries]
  simp only [List.mem_append, List.mem_cons]
  tauto

/-- A placed name has its value and every other name the value it had. -/
theorem get?_place (other : String) :
    (catalog.place position name value hname).get? other =
      if other = name then some value else catalog.get? other := by
  by_cases hother : other = name
  · rw [if_pos hother, get?_eq_some_iff, mem_entries_place, hother]
    exact .inl rfl
  · rw [if_neg hother]
    refine Option.ext fun found => ?_
    have hne : (other, found) ≠ (name, value) := fun e => hother (Prod.mk.inj e).1
    simp only [get?_eq_some_iff, mem_entries_place, hne, false_or]

/-- Every other name has the value it had. -/
theorem get?_place_of_ne {other : String} (h : other ≠ name) :
    (catalog.place position name value hname).get? other = catalog.get? other := by
  rw [get?_place, if_neg h]

/-- The placed name has the placed value. -/
@[simp] theorem get?_place_self :
    (catalog.place position name value hname).get? name = some value := by
  rw [get?_place, if_pos rfl]

/-- The placed name is listed. -/
@[simp] theorem contains_place_self :
    (catalog.place position name value hname).contains name = true := by
  rw [contains, get?_place_self, Option.isSome_some]

/-- Every other name is listed as it was. -/
theorem contains_place_of_ne {other : String} (h : other ≠ name) :
    (catalog.place position name value hname).contains other = catalog.contains other := by
  rw [contains, contains, get?_place_of_ne h]

/-- A filter that leaves a placed entry out gives what it gave before. -/
theorem filter_entries_place {keep : String × α → Bool} (h : keep (name, value) = false) :
    (catalog.place position name value hname).entries.filter keep =
      catalog.entries.filter keep := by
  obtain ⟨front, back, hentries, hplaced⟩ := exists_entries_place catalog position name value hname
  have hskipped : ¬keep (name, value) = true := by simp [h]
  rw [hplaced, hentries, List.filter_append, List.filter_append, List.filter_cons_of_neg hskipped]

/-- So does a filter of the names. -/
theorem filter_names_place {keep : String → Bool} (h : keep name = false) :
    (catalog.place position name value hname).names.filter keep = catalog.names.filter keep := by
  rw [names, names, List.filter_map, List.filter_map, filter_entries_place h]

/-- An entry of the catalog does not have the name of a placed one. -/
theorem name_ne_of_mem (hname : name ∉ catalog.names) {entry : String × α}
    (hentry : entry ∈ catalog.entries) : entry.1 ≠ name :=
  fun e => hname (e ▸ mem_names_of_mem hentry)

/-- **The entries that another catalog lacks** are the same when a name is placed in both. -/
theorem filter_lacking_place {other : Catalog β} {otherPosition : Nat} {otherValue : β}
    {hother : name ∉ other.names} :
    ((catalog.place position name value hname).entries.filter fun entry =>
        !(other.place otherPosition name otherValue hother).contains entry.1) =
      catalog.entries.filter fun entry => !other.contains entry.1 := by
  rw [filter_entries_place (by rw [contains_place_self, Bool.not_true])]
  refine List.filter_congr fun entry hentry => ?_
  rw [contains_place_of_ne (name_ne_of_mem hname hentry)]

end Catalog

end SchemaEvolution
