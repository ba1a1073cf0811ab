import SchemaEvolution.Proofs.Plan.KeyStore
import SchemaEvolution.Proofs.Plan.TableExecution

/-! # Moves of a primary key within a table
The steps for a table make and drop its primary key column by column: new columns come first, then
the columns that are kept, in the new order, then the columns that are lost. The key that is there
can therefore be in the way of the one that is to replace it, and a table that was given another
name does not find the constraint of the key it came with. `KeyMoves` lists the moves of a key that
come out right, and `Keyed.change_declared` shows that the table has the declared key after one of
these and is stuck in all other cases. -/

namespace SchemaEvolution

/-! ## Lists in which few columns matter -/

section Loops

variable {columns : List Column} {change : Column → KeyChange} (key : Option Key)

/-- A loop over columns that do nothing ends where it began. -/
theorem foldlM_of_idle (h : ∀ column ∈ columns, change column = some) :
    columns.foldlM (fun key column => change column key) key = some key :=
  foldlM_of_inert (fun column hcolumn => congrFun (h column hcolumn)) key

/-- A loop over columns with distinct names of which one at most does something does what that one
does. -/
theorem foldlM_of_only (hdistinct : Column.Distinct columns) {column : Column}
    (hmem : column ∈ columns)
    (hothers : ∀ other ∈ columns, other.name ≠ column.name → change other = some) :
    columns.foldlM (fun key column => change column key) key = change column key := by
  induction columns with
  | nil => cases hmem
  | cons first rest ih =>
    have hrest := ((Column.distinct_cons first rest).mp hdistinct).2
    rw [List.forall_mem_cons] at hothers
    rw [List.foldlM_cons]
    rcases List.mem_cons.mp hmem with rfl | hlater
    · -- the columns behind the first one have other names and do nothing
      have hidle := fun next => foldlM_of_idle next fun other hother =>
        hothers.2 other hother (hdistinct.name_ne hother)
      exact (Option.bind_congr fun next _ => hidle next).trans (Option.bind_fun_some _)
    · rw [hothers.1 (hdistinct.name_ne hlater).symm]
      exact ih hrest hlater hothers.2

end Loops

/-- In a list without repetitions one element stands before another one when it is found in front
of it. -/
theorem pair_sublist_iff {α : Type} {a b : α} {before after : List α} (hne : a ≠ b)
    (hnodup : (before ++ b :: after).Nodup) :
    [a, b].Sublist (before ++ b :: after) ↔ a ∈ before := by
  have hafter : b ∉ after := (List.nodup_cons.mp (List.nodup_append.mp hnodup).2.1).1
  constructor
  · intro h
    obtain ⟨first, second, hsplit, hfirst, hsecond⟩ := List.sublist_append_iff.mp h
    cases first with
    | nil =>
      -- both would be found from the second one on, which is not found again
      rw [List.nil_append] at hsplit
      rw [← hsplit, List.cons_sublist_cons'] at hsecond
      rcases hsecond with hrest | ⟨rfl, -⟩
      · exact absurd (hrest.subset (List.mem_cons_of_mem a List.mem_cons_self)) hafter
      · exact absurd rfl hne
    | cons head tail =>
      obtain ⟨rfl, -⟩ := List.cons.inj hsplit
      exact hfirst.subset List.mem_cons_self
  · intro h
    exact (List.singleton_sublist.mpr h).append (List.singleton_sublist.mpr List.mem_cons_self)

/-! ## The key of one table -/

/-- The moves of a primary key that come out right when a table goes from an old list of columns to
a new one, and maybe from a former name to another: there was no key before; or the key is given up,
where a column that stays must be in a table that keeps its name; or the key stays in its column; or
it passes to a column that was there before and stands **behind** the old key column in the new
order, and the table keeps its name. -/
def KeyMoves (former table : String) (old new : List Column) : Prop :=
  match Column.keyName? old, Column.keyName? new with
  | none, _ => True
  | some source, none => Column.declares new source = true → former = table
  | some source, some target =>
    source = target ∨ (former = table ∧ Column.declares old target = true ∧
      [source, target].Sublist (new.map Column.name))

/-- Two lists of columns, each with distinct names and one key at most. -/
structure Keyed (old new : List Column) : Prop where
  /-- The names in the old list are distinct. -/
  old_distinct : Column.Distinct old
  /-- The names in the new list are distinct. -/
  new_distinct : Column.Distinct new
  /-- The old list has one key at most. -/
  old_unique : Column.KeyUnique old
  /-- The new list has one key at most. -/
  new_unique : Column.KeyUnique new

namespace Keyed

variable {former table : String} {old new : List Column} {column : Column} {source target : String}
  {key : Option Key}

/-! ### What one column does -/

/-- A column that is added brings no key, if it is not the new key. -/
theorem add_eq_some (h : Keyed old new) (hmem : column ∈ new)
    (hkey : Column.keyName? new ≠ some column.name) : Key.add table column = some := by
  rw [Key.add, if_neg (mt (h.new_unique.isPrimaryKey_iff h.new_distinct hmem).mp hkey)]

/-- A column that is kept does nothing to the key when it is the key on both sides or on neither. -/
theorem keep_of_same (h : Keyed old new) (hmem : column ∈ new)
    (hsame : Column.keyName? old = some column.name ↔ Column.keyName? new = some column.name) :
    Key.keep table old column = some := by
  unfold Key.keep
  cases hformer : Column.find? old column.name with
  | none => rfl
  | some before =>
    obtain ⟨hbefore, hname⟩ := Column.mem_of_find? hformer
    rw [← hname, ← h.old_unique.isPrimaryKey_iff h.old_distinct hbefore, hname,
      ← h.new_unique.isPrimaryKey_iff h.new_distinct hmem, ← Bool.eq_iff_iff] at hsame
    simp only [Key.toggle, hsame]
    cases column.isPrimaryKey <;> rfl

/-- A column that the table did not have before is not kept. -/
theorem keep_of_added (hadded : Column.declares old column.name = false) :
    Key.keep table old column = some := by
  rw [Key.keep, (Column.find?_eq_none_iff old column.name).mpr hadded]

/-- A column that ceases to be the key has the key dropped. -/
theorem keep_of_lost (h : Keyed old new) (hmem : column ∈ new)
    (hold : Column.keyName? old = some column.name)
    (hnew : Column.keyName? new ≠ some column.name) :
    Key.keep table old column = Key.drop table := by
  obtain ⟨before, hfind⟩ := Option.isSome_iff_exists.mp
    ((Column.isSome_find? old column.name).trans (Column.declares_of_keyName? hold))
  obtain ⟨hbefore, hname⟩ := Column.mem_of_find? hfind
  rw [← hname, ← h.old_unique.isPrimaryKey_iff h.old_distinct hbefore] at hold
  rw [Ne, ← h.new_unique.isPrimaryKey_iff h.new_distinct hmem, Bool.not_eq_true] at hnew
  simp only [Key.keep, hfind, Key.toggle, hold, hnew]

/-- A column that becomes the key is made the key. -/
theorem keep_of_gained (h : Keyed old new) (hmem : column ∈ new)
    (hdeclared : Column.declares old column.name = true)
    (hold : Column.keyName? old ≠ some column.name)
    (hnew : Column.keyName? new = some column.name) :
    Key.keep table old column = Key.make table column.name := by
  obtain ⟨before, hfind⟩ := Option.isSome_iff_exists.mp
    ((Column.isSome_find? old column.name).trans hdeclared)
  obtain ⟨hbefore, hname⟩ := Column.mem_of_find? hfind
  rw [← hname, Ne, ← h.old_unique.isPrimaryKey_iff h.old_distinct hbefore, Bool.not_eq_true] at hold
  rw [← h.new_unique.isPrimaryKey_iff h.new_distinct hmem] at hnew
  simp only [Key.keep, hfind, Key.toggle, hold, hnew]

/-! ### What the columns of a list do -/

/-- Adding columns does nothing to the key when the new key is no column that is added. -/
theorem addColumns_of_declared (h : Keyed old new)
    (hdeclared : ∀ name, Column.keyName? new = some name → Column.declares old name = true) :
    Key.addColumns table old new key = some key := by
  refine foldlM_of_idle key fun column hcolumn => ?_
  obtain ⟨hmem, hadded⟩ := List.mem_filter.mp hcolumn
  refine h.add_eq_some hmem fun hkey => ?_
  rw [hdeclared _ hkey] at hadded
  cases hadded

/-- Adding the new key column makes the key. -/
theorem addColumns_of_added (h : Keyed old new) (hkey : Column.keyName? new = some target)
    (hadded : Column.declares old target = false) :
    Key.addColumns table old new key = Key.make table target key := by
  obtain ⟨column, hcolumn, rfl⟩ :=
    List.mem_map.mp ((Column.declares_iff new target).mp (Column.declares_of_keyName? hkey))
  have hmem : column ∈ columnsMissingFrom new old :=
    List.mem_filter.mpr ⟨hcolumn, by rw [hadded, Bool.not_false]⟩
  have honly : ∀ other ∈ columnsMissingFrom new old, other.name ≠ column.name →
      Key.add table other = some := fun other hother hne => by
    refine h.add_eq_some (List.mem_of_mem_filter hother) fun hsame => hne ?_
    exact (Option.some.inj (hkey.symm.trans hsame)).symm
  have hmake : Key.add table column = Key.make table column.name := by
    rw [Key.add, if_pos ((h.new_unique.isPrimaryKey_iff h.new_distinct hcolumn).mpr hkey)]
  rw [← hmake]
  exact foldlM_of_only key (h.new_distinct.missingFrom old) hmem honly

/-- Keeping columns does nothing to the key when each of them is the key on both sides or on
neither, or was added. -/
theorem keepColumns_of_same (h : Keyed old new)
    (hsame : ∀ column ∈ new, Column.declares old column.name = true →
      (Column.keyName? old = some column.name ↔ Column.keyName? new = some column.name)) :
    Key.keepColumns table old new key = some key := by
  refine foldlM_of_idle key fun column hmem => ?_
  cases hdeclared : Column.declares old column.name with
  | false => exact keep_of_added hdeclared
  | true => exact h.keep_of_same hmem (hsame column hmem hdeclared)

/-- Keeping the columns of a table that gives its key up drops the key. -/
theorem keepColumns_of_lost (h : Keyed old new) (hold : Column.keyName? old = some source)
    (hnew : Column.keyName? new = none) (hdeclared : Column.declares new source = true) :
    Key.keepColumns table old new key = Key.drop table key := by
  obtain ⟨column, hcolumn, rfl⟩ := List.mem_map.mp ((Column.declares_iff new source).mp hdeclared)
  have hnot : ∀ name, Column.keyName? new ≠ some name := fun name e => by
    rw [hnew] at e
    cases e
  rw [← h.keep_of_lost hcolumn hold (hnot _)]
  refine foldlM_of_only key h.new_distinct hcolumn fun other hother hne => ?_
  refine h.keep_of_same hother ⟨fun hsame => ?_, fun hsame => absurd hsame (hnot _)⟩
  exact absurd (Option.some.inj (hsame.symm.trans hold)) hne

/-- Keeping the columns of a table without key makes a key of the one that is to be it. -/
theorem keepColumns_of_gained (h : Keyed old new) (hold : Column.keyName? old = none)
    (hnew : Column.keyName? new = some target) (hdeclared : Column.declares old target = true) :
    Key.keepColumns table old new key = Key.make table target key := by
  obtain ⟨column, hcolumn, rfl⟩ :=
    List.mem_map.mp ((Column.declares_iff new target).mp (Column.declares_of_keyName? hnew))
  have hnot : ∀ name, Column.keyName? old ≠ some name := fun name e => by
    rw [hold] at e
    cases e
  rw [← h.keep_of_gained hcolumn hdeclared (hnot _) hnew]
  refine foldlM_of_only key h.new_distinct hcolumn fun other hother hne => ?_
  refine h.keep_of_same hother ⟨fun hsame => absurd hsame (hnot _), fun hsame => ?_⟩
  exact absurd (Option.some.inj (hsame.symm.trans hnew)) hne

/-- Keeping the columns of a table whose key passes to another column: the key is dropped before the
other one is made if the old key column stands before the new one, and it is in the way if not. -/
theorem keepColumns_of_passed (h : Keyed old new) (hold : Column.keyName? old = some source)
    (hnew : Column.keyName? new = some target) (hne : source ≠ target)
    (hdeclared : Column.declares old target = true) (key : Key) :
    Key.keepColumns table old new (some key) =
      if [source, target].Sublist (new.map Column.name) then
        (Key.drop table (some key)).bind (Key.make table target)
      else none := by
  obtain ⟨column, hcolumn, rfl⟩ :=
    List.mem_map.mp ((Column.declares_iff new target).mp (Column.declares_of_keyName? hnew))
  have hmake : Key.keep table old column = Key.make table column.name :=
    h.keep_of_gained hcolumn hdeclared (fun e => hne (Option.some.inj (hold.symm.trans e))) hnew
  -- the columns besides the two do nothing
  have hidle : ∀ other ∈ new, other.name ≠ source → other.name ≠ column.name →
      Key.keep table old other = some := fun other hother hsource htarget => by
    refine h.keep_of_same hother ⟨fun hsame => ?_, fun hsame => ?_⟩
    · exact absurd (Option.some.inj (hsame.symm.trans hold)) hsource
    · exact absurd (Option.some.inj (hsame.symm.trans hnew)) htarget
  obtain ⟨before, after, rfl⟩ := List.append_of_mem hcolumn
  have hdistinct := h.new_distinct
  rw [Column.Distinct, List.map_append, List.map_cons] at hdistinct
  obtain ⟨hbefore, hafter, hapart⟩ := List.nodup_append.mp hdistinct
  simp only [Key.keepColumns, List.foldlM_append, List.foldlM_cons, hmake, List.map_append,
    List.map_cons, pair_sublist_iff hne hdistinct]
  by_cases hfirst : source ∈ before.map Column.name
  · rw [if_pos hfirst]
    obtain ⟨first, hmem, rfl⟩ := List.mem_map.mp hfirst
    have hdrop : Key.keep table old first = Key.drop table :=
      h.keep_of_lost (List.mem_append_left _ hmem) hold
        fun e => hne (Option.some.inj (e.symm.trans hnew))
    have hfront : before.foldlM (fun key column => Key.keep table old column key) (some key) =
        Key.drop table (some key) := by
      rw [← hdrop]
      refine foldlM_of_only _ hbefore hmem fun other hother hother' => ?_
      exact hidle other (List.mem_append_left _ hother) hother'
        (hapart _ (List.mem_map_of_mem hother) _ List.mem_cons_self)
    have hback : ∀ key, after.foldlM (fun key column => Key.keep table old column key) key =
        some key := fun key => by
      refine foldlM_of_idle key fun other hother => ?_
      have hname : other.name ∈ after.map Column.name := List.mem_map_of_mem hother
      refine hidle other (List.mem_append_right _ (List.mem_cons_of_mem _ hother)) ?_ fun e => ?_
      · exact (hapart _ hfirst _ (List.mem_cons_of_mem _ hname)).symm
      · exact (List.nodup_cons.mp hafter).1 (e ▸ hname)
    simp only [hfront, hback, Option.bind_eq_bind, Option.bind_fun_some]
  · rw [if_neg hfirst, foldlM_of_idle]
    · rfl
    · intro other hother
      have hname : other.name ∈ before.map Column.name := List.mem_map_of_mem hother
      refine hidle other (List.mem_append_left _ hother) (fun e => hfirst (e ▸ hname)) ?_
      exact hapart _ hname _ List.mem_cons_self

/-- A key goes with its column when columns are dropped: it stays if its column is one of the new
list, and is gone if its column is one of the old list only. -/
theorem dropColumns_eq (key : Option Key) :
    Key.dropColumns old new key =
      some (key.filter fun key => !Column.declares (columnsMissingFrom old new) key.column) := by
  unfold Key.dropColumns
  induction columnsMissingFrom old new generalizing key with
  | nil => cases key <;> rfl
  | cons column rest ih =>
    rw [List.foldlM_cons, Key.forget, Option.bind_eq_bind, Option.bind_some, ih,
      Option.filter_filter]
    cases key with
    | none => rfl
    | some key => simp [Option.filter_some, Column.declares, bne, Bool.beq_comm]

/-- The columns of a list that another list lacks are those that the one declares and the other does
not. -/
theorem declares_columnsMissingFrom (columns others : List Column) (name : String) :
    Column.declares (columnsMissingFrom columns others) name =
      (Column.declares columns name && !Column.declares others name) := by
  rw [← TableState.has_ofColumns, TableState.has, ofColumns_columnsMissingFrom,
    ← TableState.has_ofColumns columns, TableState.has]
  cases Column.declares others name <;> simp

/-- Dropping columns leaves a key on a column of the new list as it is. -/
theorem dropColumns_of_declared (hdeclared : Column.declares new source = true)
    (constraint : String) :
    Key.dropColumns old new (some ⟨source, constraint⟩) = some (some ⟨source, constraint⟩) := by
  rw [dropColumns_eq, Option.filter_some, declares_columnsMissingFrom, hdeclared, Bool.not_true,
    Bool.and_false, Bool.not_false, if_pos rfl]

/-- Dropping columns leaves a table without key as it is. -/
theorem dropColumns_none : Key.dropColumns old new none = some none := by
  rw [dropColumns_eq, Option.filter_none]

/-- Dropping the key column leaves a table without key. -/
theorem dropColumns_of_dropped (hold : Column.declares old source = true)
    (hnew : Column.declares new source = false) (constraint : String) :
    Key.dropColumns old new (some ⟨source, constraint⟩) = some none := by
  rw [dropColumns_eq, Option.filter_some, declares_columnsMissingFrom, hold, hnew]
  rfl

/-! ### What becomes of the key of a table -/

/-- A key is dropped by its table exactly when it was made under the same name. -/
theorem drop_declared (former table source : String) :
    Key.drop table (some ⟨source, Key.constraintOf former⟩) =
      if former = table then some none else none := by
  simp only [Key.drop, Key.constraintOf_inj]

/-- A table without key gets the declared one. -/
theorem change_of_none (h : Keyed old new) (hold : Column.keyName? old = none) :
    Key.change table old new none = some (Key.declared table new) := by
  unfold Key.change Key.declared
  have hnot : ∀ name, Column.keyName? old ≠ some name := fun name e => by
    rw [hold] at e
    cases e
  cases hnew : Column.keyName? new with
  | none =>
    rw [h.addColumns_of_declared (by simp [hnew]), Option.bind_some,
      h.keepColumns_of_same (by simp [hold, hnew]), Option.bind_some, dropColumns_none,
      Option.map_none]
  | some target =>
    have htarget : Key.dropColumns old new (some ⟨target, Key.constraintOf table⟩) =
        some (some ⟨target, Key.constraintOf table⟩) :=
      dropColumns_of_declared (Column.declares_of_keyName? hnew) _
    cases hdeclared : Column.declares old target with
    | false =>
      -- the key column is added
      have hsame : ∀ column ∈ new, Column.declares old column.name = true →
          (Column.keyName? old = some column.name ↔ Column.keyName? new = some column.name) :=
        fun column _ hcolumn => by
          refine ⟨fun e => absurd e (hnot _), fun e => ?_⟩
          rw [← Option.some.inj (hnew.symm.trans e), hdeclared] at hcolumn
          cases hcolumn
      rw [h.addColumns_of_added hnew hdeclared, Key.make, Option.bind_some,
        h.keepColumns_of_same hsame, Option.bind_some, htarget, Option.map_some]
    | true =>
      -- a column that was there becomes the key
      have hadd : ∀ name, Column.keyName? new = some name → Column.declares old name = true :=
        fun name e => Option.some.inj (hnew.symm.trans e) ▸ hdeclared
      rw [h.addColumns_of_declared hadd, Option.bind_some, h.keepColumns_of_gained hold hnew
        hdeclared, Key.make, Option.bind_some, htarget, Option.map_some]

/-- A table whose key is given up ends without key; a key column that stays must not have come with
a table of another name. -/
theorem change_of_lost (h : Keyed old new) (hold : Column.keyName? old = some source)
    (hnew : Column.keyName? new = none) :
    Key.change table old new (some ⟨source, Key.constraintOf former⟩) =
      if Column.declares new source = true ∧ former ≠ table then none else some none := by
  unfold Key.change
  rw [h.addColumns_of_declared (by simp [hnew]), Option.bind_some]
  cases hdeclared : Column.declares new source with
  | false =>
    have hsame : ∀ column ∈ new, Column.declares old column.name = true →
        (Column.keyName? old = some column.name ↔ Column.keyName? new = some column.name) :=
      fun column hmem _ => by
        -- no column of the new list is the old key
        have hcolumn : Column.declares new column.name = true :=
          (Column.declares_iff new column.name).mpr (List.mem_map_of_mem hmem)
        refine ⟨fun e => ?_, fun e => by rw [hnew] at e; cases e⟩
        rw [← Option.some.inj (hold.symm.trans e), hdeclared] at hcolumn
        cases hcolumn
    rw [h.keepColumns_of_same hsame, Option.bind_some,
      dropColumns_of_dropped (Column.declares_of_keyName? hold) hdeclared]
    simp
  | true =>
    rw [h.keepColumns_of_lost hold hnew hdeclared, drop_declared]
    by_cases hname : former = table <;> simp [hname, dropColumns_none]

/-- A table keeps a key that stays in its column. -/
theorem change_of_kept (h : Keyed old new) (hold : Column.keyName? old = some source)
    (hnew : Column.keyName? new = some source) (constraint : String) :
    Key.change table old new (some ⟨source, constraint⟩) = some (some ⟨source, constraint⟩) := by
  have hadd : ∀ name, Column.keyName? new = some name → Column.declares old name = true :=
    fun name e => by
      rw [← Option.some.inj (hnew.symm.trans e)]
      exact Column.declares_of_keyName? hold
  rw [Key.change, h.addColumns_of_declared hadd, Option.bind_some,
    h.keepColumns_of_same fun column _ _ => by rw [hold, hnew], Option.bind_some,
    dropColumns_of_declared (Column.declares_of_keyName? hnew)]

/-- A key passes to another column exactly when that column was there, stands behind the old key
column in the new order, and the table keeps its name. -/
theorem change_of_passed (h : Keyed old new) (hold : Column.keyName? old = some source)
    (hnew : Column.keyName? new = some target) (hne : source ≠ target) :
    Key.change table old new (some ⟨source, Key.constraintOf former⟩) =
      if former = table ∧ Column.declares old target = true ∧
        [source, target].Sublist (new.map Column.name) then some (Key.declared table new)
      else none := by
  rw [Key.change]
  cases hdeclared : Column.declares old target with
  | false =>
    -- the new key column is added while the old key is there
    rw [h.addColumns_of_added hnew hdeclared, Key.make, Option.bind_none, Option.bind_none,
      if_neg fun hmoves => Bool.false_ne_true hmoves.2.1]
  | true =>
    have hadd : ∀ name, Column.keyName? new = some name → Column.declares old name = true :=
      fun name e => Option.some.inj (hnew.symm.trans e) ▸ hdeclared
    rw [h.addColumns_of_declared hadd, Option.bind_some,
      h.keepColumns_of_passed hold hnew hne hdeclared, drop_declared]
    by_cases horder : [source, target].Sublist (new.map Column.name) <;>
      by_cases hname : former = table
    · have htarget : Key.dropColumns old new (some ⟨target, Key.constraintOf table⟩) =
          some (some ⟨target, Key.constraintOf table⟩) :=
        dropColumns_of_declared (Column.declares_of_keyName? hnew) _
      simp [horder, hname, Key.make, htarget, Key.declared, hnew]
    · simp [hname]
    · simp [horder]
    · simp [horder]

/-- A key makes one of the moves and ends as declared, or its table gets stuck. -/
theorem change_declared (h : Keyed old new) :
    (KeyMoves former table old new ∧
      ∃ key, Key.change table old new (Key.declared former old) = some key ∧
        key.map Key.column = Column.keyName? new) ∨
    (¬KeyMoves former table old new ∧
      Key.change table old new (Key.declared former old) = none) := by
  have hdeclared := Key.column_declared table new
  unfold KeyMoves
  rw [Key.declared]
  cases hold : Column.keyName? old with
  | none => exact .inl ⟨trivial, _, h.change_of_none hold, hdeclared⟩
  | some source =>
    rw [Option.map_some]
    cases hnew : Column.keyName? new with
    | none =>
      rw [h.change_of_lost hold hnew]
      -- a key that is given up is dropped under the name its table has now
      by_cases hlost : Column.declares new source = true ∧ former ≠ table
      · exact .inr ⟨fun hmoves => hlost.2 (hmoves hlost.1), if_pos hlost⟩
      · rw [if_neg hlost]
        exact .inl ⟨fun hsource => by_contra fun hname => hlost ⟨hsource, hname⟩, none, rfl, rfl⟩
    | some target =>
      by_cases hsame : source = target
      · subst hsame
        exact .inl ⟨.inl rfl, _, h.change_of_kept hold hnew _, rfl⟩
      · rw [h.change_of_passed hold hnew hsame]
        -- a key that is passed on must be dropped before the other column takes it
        by_cases hpassed : former = table ∧ Column.declares old target = true ∧
          [source, target].Sublist (new.map Column.name)
        · rw [if_pos hpassed]
          exact .inl ⟨.inr hpassed, _, rfl, hdeclared.trans hnew⟩
        · rw [if_neg hpassed]
          exact .inr ⟨fun hmoves => hmoves.elim hsame hpassed, rfl⟩

end Keyed

end SchemaEvolution
