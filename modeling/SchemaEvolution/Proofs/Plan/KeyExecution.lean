import SchemaEvolution.Proofs.Plan.Accounting
import SchemaEvolution.Proofs.Plan.KeyMoves

/-! # Executing the key steps of a plan
Run on the primary keys of the old schema, a plan comes out right exactly when the key of every
table that stays makes one of the moves `KeyMoves`: `run_keys_iff`. A plan that moves a key to a
column further to the front, or drops the key of a renamed table, is stuck; the samples below are
such plans. -/

namespace SchemaEvolution

namespace KeyStore

/-! ## Steps for several tables -/

section Tables

variable {α : Type} {name : α → String} {steps : α → List Step} {change : α → KeyChange}
  {xs : List α}

/-- Steps for the tables of a list, each of which acts on the key of its own table, run through with
the keys that they make. All other keys stay. -/
theorem run_flatMap_iff (hnodup : (xs.map name).Nodup)
    (hacts : ∀ x ∈ xs, ActsOnKey (name x) (steps x) (change x)) (keys final : KeyStore) :
    keys.run (xs.flatMap steps) = some final ↔
      (∀ x ∈ xs, change x (keys (name x)) = some (final (name x))) ∧
        ∀ table ∉ xs.map name, final table = keys table := by
  induction xs generalizing keys with
  | nil =>
    simp only [List.flatMap_nil, run_nil, Option.some.injEq]
    exact ⟨fun h => ⟨by simp, fun table _ => congrFun h.symm table⟩,
      fun h => funext fun table => (h.2 table List.not_mem_nil).symm⟩
  | cons x rest ih =>
    rw [List.map_cons, List.nodup_cons] at hnodup
    rw [List.forall_mem_cons] at hacts
    -- the first table has a name of its own, so the other steps leave its key alone
    have hne : ∀ other ∈ rest, name other ≠ name x := fun other hother e =>
      hnodup.1 (e ▸ List.mem_map_of_mem hother)
    rw [List.flatMap_cons, run_append, hacts.1 keys, alter, List.forall_mem_cons]
    cases hchange : change x (keys (name x)) with
    | none => simp
    | some key =>
      rw [Option.map_some, Option.bind_some, ih hnodup.2 hacts.2, Option.some.injEq]
      constructor
      · rintro ⟨hrest, hothers⟩
        refine ⟨⟨?_, fun other hother => ?_⟩, fun table htable => ?_⟩
        · rw [hothers _ hnodup.1, Function.update_self]
        · rw [← hrest other hother, Function.update_of_ne (hne other hother)]
        · rw [List.map_cons, List.mem_cons, not_or] at htable
          rw [hothers table htable.2, Function.update_of_ne htable.1]
      · rintro ⟨⟨hfirst, hrest⟩, hothers⟩
        refine ⟨fun other hother => ?_, fun table htable => ?_⟩
        · rw [Function.update_of_ne (hne other hother), hrest other hother]
        · by_cases hname : table = name x
          · rw [hname, Function.update_self, hfirst]
          · rw [Function.update_of_ne hname]
            exact hothers table (List.not_mem_cons_of_ne_of_not_mem hname htable)

/-- Steps for the tables of a list run through as soon as each of them can act on the key of its
table. -/
theorem exists_run_flatMap (hnodup : (xs.map name).Nodup)
    (hacts : ∀ x ∈ xs, ActsOnKey (name x) (steps x) (change x)) (keys : KeyStore)
    (hfree : ∀ x ∈ xs, ∃ key, change x (keys (name x)) = some key) :
    ∃ final, keys.run (xs.flatMap steps) = some final := by
  induction xs generalizing keys with
  | nil => exact ⟨keys, rfl⟩
  | cons x rest ih =>
    rw [List.map_cons, List.nodup_cons] at hnodup
    rw [List.forall_mem_cons] at hacts hfree
    obtain ⟨key, hkey⟩ := hfree.1
    rw [List.flatMap_cons, run_append, hacts.1 keys, alter, hkey, Option.map_some, Option.bind_some]
    refine ih hnodup.2 hacts.2 _ fun other hother => ?_
    -- the keys of the other tables are as they were
    have hne : name other ≠ name x := fun e => hnodup.1 (e ▸ List.mem_map_of_mem hother)
    rw [Function.update_of_ne hne]
    exact hfree.2 other hother

end Tables

/-! ## Renames -/

/-- The keys after the renames of a list of pairs of an old and a new name. -/
def renameAll (pairs : List (String × String)) (keys : KeyStore) : KeyStore :=
  pairs.foldl (fun keys pair => keys.rename pair.1 pair.2) keys

/-- Renames are never stuck. -/
theorem run_renames (pairs : List (String × String)) (keys : KeyStore) :
    keys.run (pairs.map fun pair => .renameTable pair.1 pair.2) = some (renameAll pairs keys) := by
  induction pairs generalizing keys with
  | nil => rfl
  | cons pair rest ih => exact ih (keys.rename pair.1 pair.2)

/-- A table that is not renamed keeps its key, unless another one takes its name. -/
theorem renameAll_of_not_mem {pairs : List (String × String)} {table : String}
    (hsource : table ∉ pairs.map Prod.fst) (htarget : table ∉ pairs.map Prod.snd)
    (keys : KeyStore) : renameAll pairs keys table = keys table := by
  induction pairs generalizing keys with
  | nil => rfl
  | cons pair rest ih =>
    rw [List.map_cons, List.mem_cons, not_or] at hsource htarget
    refine (ih hsource.2 htarget.2 _).trans ?_
    change keys.rename pair.1 pair.2 table = keys table
    rw [rename, Function.update_of_ne htarget.1, Function.update_of_ne hsource.1]

/-- A table that is renamed takes its key with it. -/
theorem renameAll_of_mem {pairs : List (String × String)} (hsources : (pairs.map Prod.fst).Nodup)
    (htargets : (pairs.map Prod.snd).Nodup)
    (hapart : ∀ source ∈ pairs.map Prod.fst, source ∉ pairs.map Prod.snd) (keys : KeyStore)
    {pair : String × String} (hpair : pair ∈ pairs) :
    renameAll pairs keys pair.2 = keys pair.1 := by
  induction pairs generalizing keys with
  | nil => cases hpair
  | cons first rest ih =>
    simp only [List.map_cons, List.nodup_cons] at hsources htargets
    have hsource : ∀ source ∈ rest.map Prod.fst, source ≠ first.2 ∧ source ∉ rest.map Prod.snd :=
      fun source hsource =>
        List.ne_and_not_mem_of_not_mem_cons (hapart source (List.mem_cons_of_mem _ hsource))
    change renameAll rest (keys.rename first.1 first.2) pair.2 = keys pair.1
    rcases List.mem_cons.mp hpair with rfl | hrest
    · -- the rest leaves the new name alone
      rw [renameAll_of_not_mem (fun hmem => (hsource _ hmem).1 rfl) htargets.1, rename,
        Function.update_self]
    · -- the first rename leaves the old name alone
      have hmem : pair.1 ∈ rest.map Prod.fst := List.mem_map_of_mem hrest
      have hne : pair.1 ≠ first.1 := fun e => hsources.1 (e ▸ hmem)
      rw [ih hsources.2 htargets.2 (fun source h => (hsource source h).2) _ hrest, rename,
        Function.update_of_ne (hsource _ hmem).1, Function.update_of_ne hne]

/-! ## The phases -/

variable {matching : Matching} {old new : Schema}

/-- The name that a table of the new schema had before the renames. -/
def formerName (matching : Matching) (table : String) : String :=
  (matching.renamedFrom? table).getD table

/-- After the renames a table of the new schema has the key of the columns that it had in the old
one, made under the name that it had there. -/
theorem renameAll_ofSchema (hfits : matching.Fits old new) {table : String}
    (htable : table ∈ new.tables.names) :
    renameAll matching.renames (ofSchema old) table =
      (formerColumns? matching old table).bind (Key.declared (formerName matching table)) := by
  rw [formerColumns?, formerName]
  cases hfrom : matching.renamedFrom? table with
  | none =>
    rw [renameAll_of_not_mem (hfits.not_renamed_of_mem htable)
      ((Matching.renamedFrom?_eq_none_iff table).mp hfrom)]
    rfl
  | some source =>
    rw [renameAll_of_mem hfits.sources_nodup hfits.targets_nodup _ _
      (Matching.mem_renames_of_renamedFrom? hfrom)]
    · rfl
    · exact fun source hsource htarget =>
        (hfits.source_lost source hsource).2 (hfits.target_gained source htarget).1

/-- What the third phase does to the key of a table of the new schema. -/
def keptChange (matching : Matching) (old : Schema) (table : NamedTable) : KeyChange :=
  match formerColumns? matching old table.1 with
  | none => some
  | some former => Key.change table.1 former table.2

/-- The third phase changes the keys of the tables that stay. -/
theorem actsOnKey_keptSteps (table : NamedTable) :
    ActsOnKey table.1 (keptSteps matching old table) (keptChange matching old table) := by
  unfold keptSteps keptChange
  cases formerColumns? matching old table.1 with
  | none => exact ActsOnKey.nil
  | some former => exact actsOnKey_columnSteps table.1 former table.2

/-- The hint to copy data has nothing to do with keys. -/
theorem inert_of_mem_copyHint {source target : String} {shared : List String} {step : Step}
    (h : step ∈ copyHint source target shared) : Inert step := by
  unfold copyHint at h
  split at h
  · cases h
  · rcases List.mem_pair.mp h with rfl | rfl <;> exact fun _ => rfl

/-- A table that is created gets the declared key. -/
theorem actsOnKey_tableCreation (table : NamedTable) :
    ActsOnKey table.1 (tableCreation matching old table)
      fun _ => some (Key.declared table.1 table.2) := by
  have hcreate : ActsOnKey table.1 [.createTable table.1 table.2]
      fun _ => some (Key.declared table.1 table.2) := ActsOnKey.single fun _ => rfl
  refine hcreate.append (ActsOnKey.of_inert fun step hstep => ?_)
  split at hstep
  · cases hstep
  · split at hstep
    · cases hstep
    · exact inert_of_mem_copyHint hstep

/-- A table that is dropped loses its key. -/
theorem actsOnKey_tableDrop (table : String) :
    ActsOnKey table (tableDrop table) fun _ => some none := by
  intro keys
  rfl

/-- A plan runs through its renames, the changes of the tables that stay, the new tables and the
dropped ones; its other phases have nothing to do with keys. -/
theorem run_planSteps (matching : Matching) (old new : Schema) (keys : KeyStore) :
    keys.run (planSteps matching old new) =
      (((renameAll matching.renames keys).run
        (new.tables.entries.flatMap (keptSteps matching old))).bind fun kept =>
          (kept.run (tableCreations matching old new)).bind fun created =>
            created.run (tableDrops matching old new)) := by
  have htypes : keys.run (typeChanges old.types new.types.entries) = some keys :=
    run_of_inert (fun step hstep => by
      rcases shape_of_mem_typeChanges hstep with ⟨text, rfl⟩ | ⟨name, value, rfl⟩ <;>
        exact fun _ => rfl) keys
  have henums : ∀ keys : KeyStore, keys.run (typeCreations old new) = some keys :=
    run_of_inert fun step hstep => by
      obtain ⟨name, values, rfl⟩ := shape_of_mem_typeCreations hstep
      exact fun _ => rfl
  simp only [planSteps, renameSteps, run_append, htypes, run_renames, henums, Option.bind_some,
    Option.bind_assoc]

/-- New tables are always created, with the declared keys; the tables that stay keep theirs. -/
theorem run_tableCreations (matching : Matching) (old new : Schema) (keys : KeyStore) :
    ∃ created, keys.run (tableCreations matching old new) = some created ∧
      ∀ table ∈ new.tables.entries, created table.1 =
        if (formerColumns? matching old table.1).isNone then Key.declared table.1 table.2
        else keys table.1 := by
  have hnodup := new.tables.nodup_names.sublist ((List.filter_sublist
    (p := fun table => (formerColumns? matching old table.1).isNone)).map Prod.fst)
  have hacts : ∀ table ∈ new.tables.entries.filter fun table =>
      (formerColumns? matching old table.1).isNone, ActsOnKey table.1
        (tableCreation matching old table) fun _ => some (Key.declared table.1 table.2) :=
    fun table _ => actsOnKey_tableCreation table
  obtain ⟨created, hcreated⟩ := exists_run_flatMap hnodup hacts keys fun _ _ => ⟨_, rfl⟩
  refine ⟨created, hcreated, fun table htable => ?_⟩
  obtain ⟨hcome, hstay⟩ := (run_flatMap_iff hnodup hacts keys created).mp hcreated
  -- a table that comes is created once, and a table that stays is not touched
  split
  · next hnone => exact (Option.some.inj (hcome table (List.mem_filter.mpr ⟨htable, hnone⟩))).symm
  · next hformer =>
    refine hstay table.1 fun hmem => ?_
    obtain ⟨other, hother, hname⟩ := List.mem_map.mp hmem
    exact hformer (hname ▸ (List.mem_filter.mp hother).2)

/-- Tables are always dropped, and the tables of the new schema keep their keys. -/
theorem run_tableDrops (matching : Matching) (old new : Schema) (keys : KeyStore) :
    ∃ final, keys.run (tableDrops matching old new) = some final ∧
      ∀ table ∈ new.tables.names, final table = keys table := by
  have hnodup :
      ((old.tables.names.filter fun table => !isKept matching new table).map id).Nodup := by
    rw [List.map_id]
    exact old.tables.nodup.filter _
  have hacts := fun (table : String) (_ : table ∈ old.tables.names.filter fun table =>
    !isKept matching new table) => actsOnKey_tableDrop table
  obtain ⟨final, hfinal⟩ := exists_run_flatMap hnodup hacts keys fun _ _ => ⟨_, rfl⟩
  refine ⟨final, hfinal, fun table htable => ?_⟩
  refine ((run_flatMap_iff hnodup hacts keys final).mp hfinal).2 table ?_
  rw [List.map_id, Matching.mem_dropped_iff]
  exact fun hdropped => hdropped.2.1 htable

end KeyStore

/-! ## The plan -/

/-- The old table that a table of the new schema was before the steps: it had the same name, or a
step renames it. -/
def FormerTable (old : Schema) (steps : List Step) (table former : String) (columns : List Column) :
    Prop :=
  old.tables.get? former = some columns ∧
    (former = table ∨ .renameTable former table ∈ steps)

/-- The keys of all tables that stay make moves that come out right. -/
def KeysMove (old new : Schema) (steps : List Step) : Prop :=
  ∀ table ∈ new.tables.entries, ∀ former columns, FormerTable old steps table.1 former columns →
    KeyMoves former table.1 columns table.2

section Plan

variable {matching : Matching} {old new : Schema}

/-- The old table is the one that the plan was made from. -/
theorem Matching.Fits.formerTable_iff (hfits : matching.Fits old new) (table former : String)
    (columns : List Column) :
    FormerTable old (planSteps matching old new) table former columns ↔
      formerColumns? matching old table = some columns ∧
        former = KeyStore.formerName matching table := by
  unfold FormerTable KeyStore.formerName formerColumns?
  rw [renameTable_mem_planSteps_iff]
  constructor
  · rintro ⟨hget, rfl | hpair⟩
    -- a name the old schema has is not the target of a rename
    · have hnot : matching.renamedFrom? former = none :=
        (renamedFrom?_eq_none_iff former).mpr fun htarget =>
          (hfits.target_gained former htarget).2 (Catalog.mem_names_of_get? hget)
      rw [hnot]
      exact ⟨hget, rfl⟩
    · rw [hfits.renamedFrom?_of_mem hpair]
      exact ⟨hget, rfl⟩
  · rintro ⟨hget, rfl⟩
    refine ⟨hget, ?_⟩
    cases hfrom : matching.renamedFrom? table with
    | none => exact .inl rfl
    | some source => exact .inr (mem_renames_of_renamedFrom? hfrom)

/-- The third phase finds the key of a table that stays as the old schema declares it. -/
theorem Matching.Fits.keptChange_eq (hfits : matching.Fits old new) {table : NamedTable}
    (htable : table ∈ new.tables.entries) {former : List Column}
    (hformer : formerColumns? matching old table.1 = some former) :
    KeyStore.keptChange matching old table
        (KeyStore.renameAll matching.renames (KeyStore.ofSchema old) table.1) =
      Key.change table.1 former table.2
        (Key.declared (KeyStore.formerName matching table.1) former) := by
  rw [KeyStore.keptChange, hformer,
    KeyStore.renameAll_ofSchema hfits (Catalog.mem_names_of_mem htable), hformer, Option.bind_some]

/-- The third phase runs through for a table exactly when its key makes one of the moves. -/
theorem Matching.Fits.keptChange_iff (hfits : matching.Fits old new) {table : NamedTable}
    (htable : table ∈ new.tables.entries)
    (hkeyed : ∀ former, formerColumns? matching old table.1 = some former →
      Keyed former table.2) :
    (∃ key, KeyStore.keptChange matching old table
        (KeyStore.renameAll matching.renames (KeyStore.ofSchema old) table.1) = some key) ↔
      ∀ former columns, FormerTable old (planSteps matching old new) table.1 former columns →
        KeyMoves former table.1 columns table.2 := by
  simp only [hfits.formerTable_iff]
  cases hformer : formerColumns? matching old table.1 with
  | none =>
    -- a table that comes has no key to move
    refine ⟨fun _ former columns h => (by cases h.1), fun _ => ?_⟩
    rw [KeyStore.keptChange, hformer]
    exact ⟨_, rfl⟩
  | some columns =>
    rw [hfits.keptChange_eq htable hformer]
    rcases (hkeyed columns hformer).change_declared with ⟨hmoves, key, hkey, -⟩ | ⟨hmoves, hnone⟩
    · refine ⟨fun _ former others h => ?_, fun _ => ⟨key, hkey⟩⟩
      rw [h.2, ← Option.some.inj h.1]
      exact hmoves
    · refine ⟨fun ⟨key, hkey⟩ => ?_, fun h => absurd (h _ _ ⟨rfl, rfl⟩) hmoves⟩
      rw [hnone] at hkey
      cases hkey

/-- The phases run through exactly when all keys make one of the moves. -/
theorem Matching.Fits.exists_run_iff (hfits : matching.Fits old new)
    (hkeyed : ∀ table ∈ new.tables.entries, ∀ former,
      formerColumns? matching old table.1 = some former → Keyed former table.2) :
    (∃ final, (KeyStore.ofSchema old).run (planSteps matching old new) = some final) ↔
      KeysMove old new (planSteps matching old new) := by
  have hacts : ∀ table ∈ new.tables.entries, ActsOnKey table.1 (keptSteps matching old table)
      (KeyStore.keptChange matching old table) := fun table _ => KeyStore.actsOnKey_keptSteps table
  have hmoves : (∃ kept, (KeyStore.renameAll matching.renames (KeyStore.ofSchema old)).run
        (new.tables.entries.flatMap (keptSteps matching old)) = some kept) ↔
      KeysMove old new (planSteps matching old new) := by
    constructor
    · rintro ⟨kept, hkept⟩ table htable
      have hrun := (KeyStore.run_flatMap_iff new.tables.nodup_names hacts _ kept).mp hkept
      exact (hfits.keptChange_iff htable (hkeyed table htable)).mp ⟨_, hrun.1 table htable⟩
    · exact fun h => KeyStore.exists_run_flatMap new.tables.nodup_names hacts _ fun table htable =>
        (hfits.keptChange_iff htable (hkeyed table htable)).mpr (h table htable)
  rw [← hmoves, KeyStore.run_planSteps]
  constructor
  · rintro ⟨final, hfinal⟩
    obtain ⟨kept, hkept, -⟩ := Option.bind_eq_some_iff.mp hfinal
    exact ⟨kept, hkept⟩
  · -- after the third phase nothing gets stuck
    rintro ⟨kept, hkept⟩
    obtain ⟨created, hcreated, -⟩ := KeyStore.run_tableCreations matching old new kept
    obtain ⟨final, hfinal, -⟩ := KeyStore.run_tableDrops matching old new created
    exact ⟨final, by simp only [hkept, hcreated, Option.bind_some, hfinal]⟩

/-- Whenever the phases run through, a table of the new schema ends with the declared key. -/
theorem Matching.Fits.column_of_run (hfits : matching.Fits old new)
    (hkeyed : ∀ table ∈ new.tables.entries, ∀ former,
      formerColumns? matching old table.1 = some former → Keyed former table.2) {final : KeyStore}
    (hrun : (KeyStore.ofSchema old).run (planSteps matching old new) = some final)
    {table : NamedTable} (htable : table ∈ new.tables.entries) :
    (final table.1).map Key.column = Column.keyName? table.2 := by
  rw [KeyStore.run_planSteps] at hrun
  obtain ⟨kept, hkept, hrest⟩ := Option.bind_eq_some_iff.mp hrun
  obtain ⟨created, hcreated, hcreations⟩ := KeyStore.run_tableCreations matching old new kept
  obtain ⟨last, hlast, hdrops⟩ := KeyStore.run_tableDrops matching old new created
  -- the later phases leave the keys of the tables that stay as the third one made them
  rw [hcreated, Option.bind_some, hlast, Option.some.injEq] at hrest
  rw [← hrest, hdrops _ (Catalog.mem_names_of_mem htable), hcreations table htable]
  cases hformer : formerColumns? matching old table.1 with
  | none =>
    rw [Option.isNone_none, if_pos rfl, Key.column_declared]
  | some former =>
    rw [Option.isNone_some, if_neg Bool.false_ne_true]
    have hkeptKey := ((KeyStore.run_flatMap_iff new.tables.nodup_names
      (fun table _ => KeyStore.actsOnKey_keptSteps table) _ kept).mp hkept).1 table htable
    rw [hfits.keptChange_eq htable hformer] at hkeptKey
    rcases (hkeyed table htable former hformer).change_declared with ⟨-, key, hkey, hcolumn⟩ |
      ⟨-, hnone⟩
    · rw [hkey, Option.some.injEq] at hkeptKey
      rw [← hkeptKey, hcolumn]
    · rw [hnone] at hkeptKey
      cases hkeptKey

end Plan

namespace Sample

/-- A schema with one table and its primary key. -/
def keyed : Schema where
  types := .empty
  tables := .ofList [("item", [plain "id" "INT PRIMARY KEY", plain "code" "INT"])]

/-- The schema in which the key has passed to the other column. -/
def keyedBehind : Schema where
  types := .empty
  tables := .ofList [("item", [plain "id" "INT", plain "code" "INT PRIMARY KEY"])]

/-- The same schema with its columns in the other order. -/
def keyedAhead : Schema where
  types := .empty
  tables := .ofList [("item", [plain "code" "INT PRIMARY KEY", plain "id" "INT"])]

/-- The steps for a key that passes to a column behind the old one. -/
def passSteps : List Step := [.dropPrimaryKey "item", .addPrimaryKey "item" "code"]

/-- The plan between the two sample schemas. -/
theorem plan_keyed_keyedBehind : plan .standard keyed keyedBehind = .ok passSteps := by
  decide +kernel

end Sample

/-- A key that passes to a column **ahead** of the old one is made before the old one is dropped,
and a renamed table does not find the constraint of its key: neither plan runs through. -/
theorem sample_keys_stuck :
    (Sample.keyed.ColumnsDistinct ∧ Sample.keyedAhead.ColumnsDistinct ∧ Sample.keyed.KeysUnique ∧
      Sample.keyedAhead.KeysUnique ∧
      plan .standard Sample.keyed Sample.keyedAhead = .ok Sample.passSteps.reverse ∧
      (KeyStore.ofSchema Sample.keyed).run Sample.passSteps.reverse = none) ∧
    (Sample.before.ColumnsDistinct ∧ Sample.after.ColumnsDistinct ∧ Sample.before.KeysUnique ∧
      Sample.after.KeysUnique ∧ plan .standard Sample.before Sample.after = .ok Sample.steps ∧
      (KeyStore.ofSchema Sample.before).run Sample.steps = none) := by
  refine ⟨⟨by decide +kernel, by decide +kernel, by decide +kernel, by decide +kernel,
    by decide +kernel, Option.isNone_iff_eq_none.mp (by decide +kernel)⟩, by decide +kernel,
    by decide +kernel, by decide +kernel, by decide +kernel, Sample.plan_before_after,
    Option.isNone_iff_eq_none.mp (by decide +kernel)⟩

/-- **The key steps of a plan can be executed exactly when all keys make moves that come out
right**, and whenever they can, every table of the new schema ends up with the declared key. -/
theorem run_keys_iff (options : MatchOptions) (old new : Schema) (hold : old.ColumnsDistinct)
    (hnew : new.ColumnsDistinct) (holdKeys : old.KeysUnique) (hnewKeys : new.KeysUnique)
    (steps : List Step) (hplan : plan options old new = .ok steps) :
    ((∃ final, (KeyStore.ofSchema old).run steps = some final) ↔ KeysMove old new steps) ∧
      ∀ final, (KeyStore.ofSchema old).run steps = some final → ∀ table ∈ new.tables.entries,
        (final table.1).map Key.column = Column.keyName? table.2 := by
  have hfits := Matching.ofSchemas_fits options old new
  have hkeyed : ∀ table ∈ new.tables.entries, ∀ former,
      formerColumns? (Matching.ofSchemas options old new) old table.1 = some former →
        Keyed former table.2 := fun table htable former hformer =>
    ⟨hold.of_get? hformer, hnew table htable, holdKeys.of_get? hformer, hnewKeys table htable⟩
  rw [eq_planSteps_of_plan hplan]
  exact ⟨hfits.exists_run_iff hkeyed, fun final hrun table htable =>
    hfits.column_of_run hkeyed hrun htable⟩

/-- The key of the sample passes to a column behind the old one: its plan runs through, so the key
makes one of the moves, and the table ends with the new key. -/
theorem sample_key_passes :
    plan .standard Sample.keyed Sample.keyedBehind = .ok Sample.passSteps ∧
      KeysMove Sample.keyed Sample.keyedBehind Sample.passSteps ∧
      ∀ final, (KeyStore.ofSchema Sample.keyed).run Sample.passSteps = some final →
        ∀ table ∈ Sample.keyedBehind.tables.entries,
          (final table.1).map Key.column = Column.keyName? table.2 := by
  have h := run_keys_iff .standard Sample.keyed Sample.keyedBehind (by decide +kernel)
    (by decide +kernel) (by decide +kernel) (by decide +kernel) Sample.passSteps
    Sample.plan_keyed_keyedBehind
  exact ⟨Sample.plan_keyed_keyedBehind,
    h.1.mp (Option.isSome_iff_exists.mp (by decide +kernel)), h.2⟩

end SchemaEvolution
