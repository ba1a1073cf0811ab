import SchemaEvolution.Proofs.Double.Quotient
import Mathlib.Data.Finset.Card
import Mathlib.Data.Finset.Dedup
import Mathlib.Data.Finset.Lattice.Lemmas

/-! # Overlap of two tables
The names that two lists of columns share, and the names that either of them has, are counted once
each: the counts are those of an intersection and of a union of sets of names. Two lists **overlap
credibly** when they share a name, and either share enough names or a large enough part of all
names. A similarity that reaches a positive threshold always rests on a credible overlap. -/

namespace SchemaEvolution

open Double

/-! ## Sets of names -/

/-- The names of the columns of a list, as a set. -/
def nameSet (columns : List Column) : Finset String := (columns.map Column.name).toFinset

/-- The set holds the names of the columns. -/
theorem mem_nameSet_iff (columns : List Column) (name : String) :
    name ∈ nameSet columns ↔ name ∈ columns.map Column.name :=
  List.mem_toFinset

/-- A list in which repetitions are left out has none. -/
theorem nodup_eraseDups (names : List String) : names.eraseDups.Nodup := by
  match names with
  | [] => exact List.nodup_nil
  | name :: rest =>
    -- the names that are left behind the first one are fewer, which ends the recursion
    have hshort : (rest.filter fun other => !other == name).length < rest.length + 1 :=
      Nat.lt_succ_of_le (List.length_filter_le _ rest)
    rw [List.eraseDups_cons, List.nodup_cons, List.mem_eraseDups]
    exact ⟨by simp, nodup_eraseDups _⟩
termination_by names.length

/-- The listed names are the names of the columns, each once. -/
theorem toFinset_columnNames (columns : List Column) :
    (columnNames columns).toFinset = nameSet columns := by
  ext name
  rw [columnNames, List.mem_toFinset, List.mem_eraseDups, mem_nameSet_iff]

/-- **The shared names are an intersection.** -/
theorem sharedCount_eq_card (old new : List Column) :
    sharedCount old new = (nameSet old ∩ nameSet new).card := by
  have hnodup : ((columnNames old).filter fun name => (columnNames new).contains name).Nodup :=
    (nodup_eraseDups _).filter _
  rw [sharedCount, ← List.toFinset_card_of_nodup hnodup, ← toFinset_columnNames,
    ← toFinset_columnNames]
  congr 1
  ext name
  simp

/-- **All names are a union.** -/
theorem unionCount_eq_card (old new : List Column) :
    unionCount old new = (nameSet old ∪ nameSet new).card := by
  have hnodup : (columnNames (old ++ new)).Nodup := nodup_eraseDups _
  rw [unionCount, ← List.toFinset_card_of_nodup hnodup, toFinset_columnNames]
  congr 1
  ext name
  simp [nameSet]

/-- The share of common names is a quotient of the sizes of two sets. -/
theorem overlapRatio_eq (old new : List Column) :
    overlapRatio old new = countValue (nameSet old ∩ nameSet new).card /
      countValue (nameSet old ∪ nameSet new).card := by
  rw [overlapRatio, sharedCount_eq_card, unionCount_eq_card]

/-- Only the empty list has no names. -/
theorem nameSet_eq_empty_iff (columns : List Column) : nameSet columns = ∅ ↔ columns = [] := by
  rw [nameSet, List.toFinset_eq_empty_iff, List.map_eq_nil_iff]

/-- The order of columns does not matter to their names. -/
theorem nameSet_of_perm {columns others : List Column} (h : columns.Perm others) :
    nameSet columns = nameSet others :=
  List.toFinset_eq_of_perm _ _ (h.map Column.name)

/-! ## Credible overlap -/

/-- Two lists of columns **overlap credibly**. -/
structure OverlapsCredibly (options : MatchOptions) (old new : List Column) : Prop where
  /-- They share a name. -/
  shared : (nameSet old ∩ nameSet new).Nonempty
  /-- They share enough names, or enough of all names. -/
  enough : options.minSharedColumns ≤ (nameSet old ∩ nameSet new).card ∨
    options.minOverlapRatio ≤ countValue (nameSet old ∩ nameSet new).card /
      countValue (nameSet old ∪ nameSet new).card

/-- The test of a comparison asks for enough shared names. -/
theorem isCredible_iff (options : MatchOptions) (old new : List Column) :
    isCredible options old new = true ↔
      options.minSharedColumns ≤ (nameSet old ∩ nameSet new).card ∨
        options.minOverlapRatio ≤ countValue (nameSet old ∩ nameSet new).card /
          countValue (nameSet old ∪ nameSet new).card := by
  rw [isCredible, Bool.or_eq_true, decide_eq_true_iff, decide_eq_true_iff, sharedCount_eq_card,
    overlapRatio_eq]

/-- The similarity of two tables with columns is their overlap, as far as it is believed. -/
theorem similarity_of_ne_nil (options : MatchOptions) {old new : List Column} (hold : old ≠ [])
    (hnew : new ≠ []) :
    similarity options old new =
      if isCredible options old new then overlapRatio old new else 0.0 := by
  obtain ⟨former, formers, rfl⟩ := List.exists_cons_of_ne_nil hold
  obtain ⟨column, columns, rfl⟩ := List.exists_cons_of_ne_nil hnew
  rfl

/-- **Similarity looks at names only**, each counted once, in whatever order they come. -/
theorem similarity_congr (options : MatchOptions) {old other new fresh : List Column}
    (hold : nameSet old = nameSet other) (hnew : nameSet new = nameSet fresh) :
    similarity options old new = similarity options other fresh := by
  have hempty : ∀ {columns others : List Column}, nameSet columns = nameSet others →
      (columns = [] ↔ others = []) := by
    intro columns others h
    rw [← nameSet_eq_empty_iff, h, nameSet_eq_empty_iff]
  by_cases hformer : old = []
  · obtain rfl := (hempty hold).mp hformer
    subst hformer
    -- the other list decides whether the two are alike or have nothing in common
    by_cases hcolumns : new = []
    · obtain rfl := (hempty hnew).mp hcolumns
      rw [hcolumns]
    · obtain ⟨column, columns, rfl⟩ := List.exists_cons_of_ne_nil hcolumns
      obtain ⟨next, rest, rfl⟩ := List.exists_cons_of_ne_nil (mt (hempty hnew).mpr hcolumns)
      rfl
  · by_cases hcolumns : new = []
    · obtain rfl := (hempty hnew).mp hcolumns
      subst hcolumns
      obtain ⟨column, columns, rfl⟩ := List.exists_cons_of_ne_nil hformer
      obtain ⟨next, rest, rfl⟩ := List.exists_cons_of_ne_nil (mt (hempty hold).mpr hformer)
      rfl
    · rw [similarity_of_ne_nil options hformer hcolumns,
        similarity_of_ne_nil options (mt (hempty hold).mpr hformer) (mt (hempty hnew).mpr hcolumns)]
      have hcredible : isCredible options old new = isCredible options other fresh := by
        rw [Bool.eq_iff_iff, isCredible_iff, isCredible_iff, hold, hnew]
      rw [hcredible, overlapRatio_eq, overlapRatio_eq, hold, hnew]

/-- Where no name is shared, the share of common names misses every positive threshold. -/
theorem overlapRatio_lt {threshold : Float} (hpositive : 0.0 < threshold) {old new : List Column}
    (hold : old ≠ []) (hnone : ¬(nameSet old ∩ nameSet new).Nonempty) :
    overlapRatio old new < threshold := by
  obtain ⟨column, rest, rfl⟩ := List.exists_cons_of_ne_nil hold
  have hunion := unionCount_pos column rest new
  have hzero : IsNumber 0.0 := by decide +kernel
  have hratio : IsNumber (overlapRatio (column :: rest) new) :=
    isNumber_div (isNumber_countValue _) (isProper_countValue hunion)
  have hthreshold := isNumber_of_lt hpositive
  rw [lt_iff_rank_lt hzero hthreshold] at hpositive
  rw [lt_iff_rank_lt hratio hthreshold, overlapRatio, sharedCount_eq_card,
    Finset.not_nonempty_iff_eq_empty.mp hnone, Finset.card_empty, rank_zero_div_countValue hunion]
  exact hpositive

/-- **A similarity that reaches a positive threshold rests on a credible overlap.** -/
theorem overlapsCredibly_of_reached {options : MatchOptions} {threshold : Float}
    (hpositive : 0.0 < threshold) {old new : List Column} (hold : old ≠ []) (hnew : new ≠ [])
    (hreached : ¬similarity options old new < threshold) : OverlapsCredibly options old new := by
  rw [similarity_of_ne_nil options hold hnew] at hreached
  by_cases hcredible : isCredible options old new = true
  · rw [if_pos hcredible] at hreached
    refine ⟨?_, (isCredible_iff options old new).mp hcredible⟩
    by_contra hnone
    exact hreached (overlapRatio_lt hpositive hold hnone)
  · -- a likeness that is not believed counts as zero, which misses the threshold
    rw [if_neg hcredible] at hreached
    exact absurd hpositive hreached

/-! ## Similarity of sets of names -/

/-- The names that two sets share as a part of all their names. -/
def sharedPart (names others : Finset String) : Float :=
  countValue (names ∩ others).card / countValue (names ∪ others).card

/-- A comparison may be read from either side. -/
theorem similarity_comm (options : MatchOptions) (old new : List Column) :
    similarity options old new = similarity options new old := by
  match old, new with
  | [], [] => rfl
  | [], _ :: _ => rfl
  | _ :: _, [] => rfl
  | former :: formers, column :: columns =>
    have hcredible : isCredible options (former :: formers) (column :: columns) =
        isCredible options (column :: columns) (former :: formers) := by
      rw [Bool.eq_iff_iff, isCredible_iff, isCredible_iff, Finset.inter_comm, Finset.union_comm]
    have hratio : overlapRatio (former :: formers) (column :: columns) =
        overlapRatio (column :: columns) (former :: formers) := by
      rw [overlapRatio_eq, overlapRatio_eq, Finset.inter_comm, Finset.union_comm]
    rw [similarity_of_ne_nil options (List.cons_ne_nil _ _) (List.cons_ne_nil _ _), hcredible,
      hratio, ← similarity_of_ne_nil options (List.cons_ne_nil _ _) (List.cons_ne_nil _ _)]

/-- The similarity of two tables with columns is the shared part of their names or zero. -/
theorem similarity_eq_zero_or (options : MatchOptions) {old new : List Column} (hold : old ≠ [])
    (hnew : new ≠ []) :
    similarity options old new = 0.0 ∨
      similarity options old new = sharedPart (nameSet old) (nameSet new) := by
  rw [similarity_of_ne_nil options hold hnew, overlapRatio_eq]
  split
  · exact .inr rfl
  · exact .inl rfl

/-- The shared part of the names is the similarity where it is believed, and where it is zero. -/
theorem similarity_eq_sharedPart_iff (options : MatchOptions) {old new : List Column}
    (hold : old ≠ []) (hnew : new ≠ []) :
    similarity options old new = sharedPart (nameSet old) (nameSet new) ↔
      options.minSharedColumns ≤ (nameSet old ∩ nameSet new).card ∨
        options.minOverlapRatio ≤ sharedPart (nameSet old) (nameSet new) ∨
          sharedPart (nameSet old) (nameSet new) = 0.0 := by
  rw [similarity_of_ne_nil options hold hnew, overlapRatio_eq, ← or_assoc]
  by_cases hcredible : isCredible options old new = true
  · rw [if_pos hcredible]
    exact iff_of_true rfl (.inl ((isCredible_iff options old new).mp hcredible))
  · rw [if_neg hcredible]
    have hguard := mt (isCredible_iff options old new).mpr hcredible
    exact ⟨fun h => .inr h.symm, fun h => (h.resolve_left hguard).symm⟩

/-- **Similarity is a symmetric function of two sets of names.** It does not depend on the sides,
and lists of columns with the same names have the same similarity. Between tables with columns it is
zero or the shared part of their names: the latter where enough names are shared, where the part is
large enough, or where it is zero. -/
theorem similarity_of_names (options : MatchOptions) (old new : List Column) :
    similarity options old new = similarity options new old ∧
      (∀ other fresh, nameSet other = nameSet old → nameSet fresh = nameSet new →
        similarity options other fresh = similarity options old new) ∧
      (old ≠ [] → new ≠ [] →
        (similarity options old new = 0.0 ∨
          similarity options old new = sharedPart (nameSet old) (nameSet new)) ∧
        (similarity options old new = sharedPart (nameSet old) (nameSet new) ↔
          options.minSharedColumns ≤ (nameSet old ∩ nameSet new).card ∨
            options.minOverlapRatio ≤ sharedPart (nameSet old) (nameSet new) ∨
              sharedPart (nameSet old) (nameSet new) = 0.0)) := by
  refine ⟨similarity_comm options old new, ?_, ?_⟩
  · intro other fresh hold hnew
    exact similarity_congr options hold hnew
  · intro hold hnew
    exact ⟨similarity_eq_zero_or options hold hnew, similarity_eq_sharedPart_iff options hold hnew⟩

namespace Sample

/-- Options that believe in two shared names and, their ratio being no number, in no share. -/
def unruled : MatchOptions := ⟨0.5, 0.3, 2, 0.0 / 0.0⟩

/-- The columns of a table of people. -/
def people : List Column :=
  [⟨"id", "INT", true, none⟩, ⟨"name", "TEXT", false, some "'?'"⟩, ⟨"age", "INT", false, none⟩]

/-- The same names in another order and of other types, one of them twice. -/
def peopleAgain : List Column :=
  [⟨"age", "TEXT", false, none⟩, ⟨"id", "UUID", false, none⟩, ⟨"name", "INT", true, none⟩,
    ⟨"id", "INT", true, some "0"⟩]

/-- The columns of a table of members. -/
def members : List Column :=
  [⟨"name", "TEXT", false, none⟩, ⟨"id", "INT", true, none⟩, ⟨"since", "DATE", false, none⟩]

end Sample

/-- People and members share two of four names, which is a half from either side and however the
people are listed. -/
theorem sample_similarity_of_names :
    nameSet Sample.peopleAgain = nameSet Sample.people ∧ Sample.people ≠ [] ∧
      Sample.members ≠ [] ∧
      similarity Sample.unruled Sample.people Sample.members =
        similarity Sample.unruled Sample.members Sample.people ∧
      similarity Sample.unruled Sample.peopleAgain Sample.members =
        similarity Sample.unruled Sample.people Sample.members ∧
      similarity Sample.unruled Sample.people Sample.members =
        sharedPart (nameSet Sample.people) (nameSet Sample.members) ∧
      similarity Sample.unruled Sample.people Sample.members = 0.5 := by
  have hnames : nameSet Sample.peopleAgain = nameSet Sample.people := by decide +kernel
  have hpeople : Sample.people ≠ [] := by decide
  have hmembers : Sample.members ≠ [] := by decide
  have hshared : Sample.unruled.minSharedColumns ≤
      (nameSet Sample.people ∩ nameSet Sample.members).card := by decide +kernel
  have hhalf : sharedPart (nameSet Sample.people) (nameSet Sample.members) = 0.5 := by
    decide +kernel
  obtain ⟨hcomm, hcongr, hvalue⟩ := similarity_of_names Sample.unruled Sample.people Sample.members
  have hpart := (hvalue hpeople hmembers).2.mpr (.inl hshared)
  exact ⟨hnames, hpeople, hmembers, hcomm, hcongr _ _ hnames rfl, hpart, hpart.trans hhalf⟩

end SchemaEvolution
