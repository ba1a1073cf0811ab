import SchemaEvolution.Proofs.Plan.Compatibility
import SchemaEvolution.Proofs.Plan.Order
import SchemaEvolution.Proofs.Plan.Store

/-! # Types under the steps of a plan
A **type store** knows the declared types by their names. Two kinds of steps matter to it: a value
is added at the end of an enumeration that is there, and an enumeration is declared under a name
that is free. `TypeStore.execute` runs one step and gives `none` where the store is not as the step
needs it.

Where every type of both schemas grows, the first phase of a plan adds to each enumeration the
values behind the old ones, and the fourth phase declares the enumerations that are new. What the
two phases make of the old types is the `overlay` of the new enumerations over them. -/

namespace SchemaEvolution

/-- Whether a type is an enumeration. -/
def TypeDefinition.isEnumeration : TypeDefinition → Bool
  | .enumeration _ => true
  | .composite _ => false

/-! ## Type stores -/

/-- The declared types, by their names. -/
abbrev TypeStore := String → Option TypeDefinition

namespace TypeStore

/-- The types that a schema declares. -/
def ofSchema (schema : Schema) : TypeStore := schema.types.get?

/-- The enumerations among the listed types. -/
def enumerations (types : List (String × TypeDefinition)) : TypeStore :=
  fun name => (Catalog.lookup name types).filter TypeDefinition.isEnumeration

/-- Add a value at the end of an enumeration that is there. -/
def addValue (store : TypeStore) (name value : String) : Option TypeStore :=
  match store name with
  | some (.enumeration values) =>
    some (Function.update store name (some (.enumeration (values ++ [value]))))
  | _ => none

/-- Declare an enumeration under a name that is free. -/
def createEnum (store : TypeStore) (name : String) (values : List String) : Option TypeStore :=
  if (store name).isNone then some (Function.update store name (some (.enumeration values)))
  else none

/-- Run a step; `none` when the store is not in the state that the step needs. Only steps about
enumerations matter. -/
def execute (store : TypeStore) : Step → Option TypeStore
  | .addEnumValue name value => store.addValue name value
  | .createEnum name values => store.createEnum name values
  | _ => some store

/-- **Run a list of steps** in order; `none` as soon as one of them is stuck. -/
def run (store : TypeStore) (steps : List Step) : Option TypeStore := steps.foldlM execute store

/-- A run executes its first step and then the others. -/
theorem run_cons (store : TypeStore) (step : Step) (steps : List Step) :
    store.run (step :: steps) = (store.execute step).bind fun next => next.run steps :=
  List.foldlM_cons

/-- Lists of steps run one after the other. -/
theorem run_append (store : TypeStore) (first second : List Step) :
    store.run (first ++ second) = (store.run first).bind fun next => next.run second :=
  List.foldlM_append

/-- Steps of one phase leave the types as they are, unless it is the first or the fourth one. -/
theorem run_of_phase {phase : Nat} {steps : List Step} (h : ∀ step ∈ steps, step.phase = phase)
    (hother : phase ≠ 1 ∧ phase ≠ 4) (store : TypeStore) : store.run steps = some store := by
  refine foldlM_of_inert (fun step hstep state => ?_) store
  rw [← h step hstep] at hother
  cases step with
  | addEnumValue name value => exact absurd rfl hother.1
  | createEnum name values => exact absurd rfl hother.2
  | _ => rfl

/-! ## Listed enumerations -/

/-- The first type stands before those of its name that follow. -/
theorem enumerations_cons (entry : String × TypeDefinition)
    (rest : List (String × TypeDefinition)) :
    enumerations (entry :: rest) =
      Function.update (enumerations rest) entry.1
        ((some entry.2).filter TypeDefinition.isEnumeration) := by
  funext name
  rw [enumerations, Catalog.lookup_cons]
  by_cases hname : entry.1 = name
  · subst hname
    rw [if_pos rfl, Function.update_self]
  · rw [if_neg hname, Function.update_of_ne (Ne.symm hname), enumerations]

/-- There is no enumeration under a name that is not listed. -/
theorem enumerations_eq_none {types : List (String × TypeDefinition)} {name : String}
    (h : name ∉ types.map Prod.fst) : enumerations types name = none := by
  rw [enumerations, (Catalog.lookup_eq_none_iff name types).mpr h, Option.filter_none]

/-- A type that is no enumeration does not show. -/
theorem enumerations_cons_composite {types : List (String × TypeDefinition)} {name : String}
    (h : name ∉ types.map Prod.fst) (text : String) :
    enumerations ((name, .composite text) :: types) = enumerations types := by
  rw [enumerations_cons]
  exact Function.update_eq_self_iff.mpr (enumerations_eq_none h).symm

/-- The types of a list are found as they were after a change under a name that the list does not
have. -/
theorem update_of_fresh {types : List (String × TypeDefinition)} {name : String}
    (h : name ∉ types.map Prod.fst) (value : Option TypeDefinition) (store : TypeStore) :
    ∀ entry ∈ types, Function.update store name value entry.1 = store entry.1 := by
  intro entry hentry
  have hlisted : entry.1 ∈ types.map Prod.fst := List.mem_map_of_mem hentry
  have hne : entry.1 ≠ name := fun e => h (e ▸ hlisted)
  exact Function.update_of_ne hne _ _

/-! ## Adding values -/

variable {store : TypeStore} {name : String}

/-- Values are added one after the other. -/
theorem run_addValues {values : List String} (h : store name = some (.enumeration values))
    (added : List String) :
    store.run (added.map (.addEnumValue name)) =
      some (Function.update store name (some (.enumeration (values ++ added)))) := by
  induction added generalizing store values with
  | nil => rw [List.append_nil, Function.update_eq_self_iff.mpr h.symm]; rfl
  | cons value added ih =>
    -- the first value goes to the end of the old ones, the others go behind it
    have hfirst : store.execute (.addEnumValue name value) =
        some (Function.update store name (some (.enumeration (values ++ [value])))) := by
      show store.addValue name value = _
      rw [addValue, h]
    rw [List.map_cons, run_cons, hfirst, Option.bind_some, ih (Function.update_self ..),
      Function.update_idem, List.append_assoc, List.singleton_append]

/-- Nothing but the values at the end is new in an enumeration that grows. -/
theorem enumerationChanges_eq_drop {old new : List String} (h : old <+: new) (name : String) :
    enumerationChanges name old new = (new.drop old.length).map (.addEnumValue name) := by
  rw [enumerationChanges, (valueConflicts_eq_nil_iff name old new).mpr (.inl h),
    List.drop_eq_nil_of_le h.length_le]
  rfl

/-- **The changes of an enumeration give it its new values**, in their order. -/
theorem run_enumerationChanges {old new : List String} (hgrow : old <+: new)
    (h : store name = some (.enumeration old)) :
    store.run (enumerationChanges name old new) =
      some (Function.update store name (some (.enumeration new))) := by
  have hnew : old ++ new.drop old.length = new := List.prefix_iff_eq_append.mp hgrow
  rw [enumerationChanges_eq_drop hgrow, run_addValues h, hnew]

/-! ## The two phases -/

/-- **The first phase gives the enumerations that are there their new values** and leaves all other
types as they are. -/
theorem run_typeChanges {old : Catalog TypeDefinition} {types : List (String × TypeDefinition)}
    (hnodup : (types.map Prod.fst).Nodup)
    (hgrow : ∀ entry ∈ types, ∀ former, old.get? entry.1 = some former → former.GrowsTo entry.2)
    (store : TypeStore) (hstore : ∀ entry ∈ types, store entry.1 = old.get? entry.1) :
    store.run (typeChanges old types) =
      some (overlay old.contains (enumerations types) store) := by
  induction types generalizing store with
  | nil =>
    show some store = _
    exact congrArg some (overlay_none old.contains store).symm
  | cons entry rest ih =>
    obtain ⟨name, definition⟩ := entry
    rw [List.map_cons, List.nodup_cons] at hnodup
    rw [List.forall_mem_cons] at hgrow hstore
    obtain ⟨hfresh, hrest⟩ := hnodup
    rw [typeChanges]
    cases hformer : old.get? name with
    | none =>
      -- a type that is not there yet is passed over
      have hlacking : old.contains name = false := by rw [Catalog.contains, hformer]; rfl
      rw [enumerations_cons, overlay_update_of_not_chosen hlacking]
      exact ih hrest hgrow.2 store hstore.2
    | some former =>
      have hlisted : old.contains name = true := by rw [Catalog.contains, hformer]; rfl
      have hgrows := hgrow.1 former hformer
      cases former with
      | enumeration oldValues =>
        cases definition with
        | enumeration newValues =>
          have hothers : ∀ entry ∈ rest,
              Function.update store name (some (.enumeration newValues)) entry.1 =
                old.get? entry.1 := by
            intro entry hentry
            rw [update_of_fresh hfresh _ store entry hentry, hstore.2 entry hentry]
          show store.run (enumerationChanges name oldValues newValues ++ typeChanges old rest) = _
          rw [run_append, run_enumerationChanges hgrows (hstore.1.trans hformer), Option.bind_some,
            ih hrest hgrow.2 _ hothers, enumerations_cons,
            overlay_update_of_chosen hlisted (enumerations_eq_none hfresh)]
          rfl
        | composite text => exact absurd hgrows id
      | composite oldText =>
        cases definition with
        | enumeration newValues => exact absurd hgrows id
        | composite newText =>
          have htext : oldText = newText := hgrows
          dsimp only
          rw [if_pos htext, enumerations_cons_composite hfresh]
          exact ih hrest hgrow.2 store hstore.2

/-- **The fourth phase declares the enumerations that are new**, and nothing else. -/
theorem run_createTypes {types : List (String × TypeDefinition)}
    (hnodup : (types.map Prod.fst).Nodup) (store : TypeStore)
    (hfree : ∀ entry ∈ types, store entry.1 = none) :
    store.run (types.filterMap createType?) =
      some (overlay (fun _ => true) (enumerations types) store) := by
  induction types generalizing store with
  | nil => exact congrArg some (overlay_none _ store).symm
  | cons entry rest ih =>
    obtain ⟨name, definition⟩ := entry
    rw [List.map_cons, List.nodup_cons] at hnodup
    rw [List.forall_mem_cons] at hfree
    obtain ⟨hfresh, hrest⟩ := hnodup
    cases definition with
    | enumeration values =>
      have hfirst : store.execute (.createEnum name values) =
          some (Function.update store name (some (.enumeration values))) := by
        show store.createEnum name values = _
        rw [createEnum, hfree.1]
        rfl
      -- the other names stay free when this one is taken
      have hothers : ∀ entry ∈ rest,
          Function.update store name (some (.enumeration values)) entry.1 = none := by
        intro entry hentry
        rw [update_of_fresh hfresh _ store entry hentry, hfree.2 entry hentry]
      rw [List.filterMap_cons_some (rfl : createType? (name, .enumeration values) = some _),
        run_cons, hfirst, Option.bind_some, ih hrest _ hothers, enumerations_cons,
        overlay_update_of_chosen rfl (enumerations_eq_none hfresh)]
      rfl
    | composite text =>
      rw [List.filterMap_cons_none (rfl : createType? (name, .composite text) = none),
        enumerations_cons_composite hfresh]
      exact ih hrest store hfree.2

/-! ## All phases -/

/-- The types after the first phase: the enumerations that were there have their new values. -/
def grown (old new : Schema) : TypeStore :=
  overlay old.types.contains (enumerations new.types.entries) (ofSchema old)

/-- The types after all phases: the new enumerations stand over the old types. -/
def evolved (old new : Schema) : TypeStore :=
  overlay (fun _ => true) (enumerations new.types.entries) (ofSchema old)

variable {matching : Matching} {old new : Schema}

/-- The fourth phase finds the names of the new types free, and puts the new enumerations beside
those that grew. -/
theorem run_typeCreations (old new : Schema) :
    (grown old new).run (typeCreations old new) = some (evolved old new) := by
  have hnodup : ((addedTypes old new).map Prod.fst).Nodup :=
    new.types.nodup_names.sublist (List.filter_sublist.map Prod.fst)
  rw [SchemaEvolution.typeCreations, run_createTypes hnodup]
  · congr 1
    funext name
    have hadded : enumerations (addedTypes old new) name =
        if !old.types.contains name then enumerations new.types.entries name else none := by
      rw [enumerations, addedTypes, Catalog.lookup_filter fun name => !old.types.contains name]
      split <;> rfl
    -- an enumeration is among those that grew or among those that are added, not among both
    simp only [grown, evolved, overlay, hadded]
    cases old.types.contains name <;> simp
  · intro entry hentry
    have hlacking : old.types.contains entry.1 = false := by
      simpa using (List.mem_filter.mp hentry).2
    have hnone : old.types.get? entry.1 = none := by
      rw [Catalog.get?_eq_none_iff, ← Catalog.contains_eq_false_iff, hlacking]
    rw [grown, overlay, hlacking, ofSchema, hnone]
    rfl

/-- **The steps lay the new enumerations over the old types**, as long as every type of both schemas
grows. -/
theorem run_planSteps (hgrow : old.TypesGrow new) :
    (ofSchema old).run (planSteps matching old new) = some (evolved old new) := by
  have hchanges : (ofSchema old).run (typeChanges old.types new.types.entries) =
      some (grown old new) := by
    refine run_typeChanges new.types.nodup_names ?_ (ofSchema old) fun _ _ => rfl
    intro entry hentry former hformer
    exact hgrow entry.1 former entry.2 hformer (new.types.get?_of_mem hentry)
  -- the phases about tables are passed over
  simp only [planSteps, run_append, hchanges, Option.bind_some, run_typeCreations,
    run_of_phase (fun _ => phase_of_mem_renameSteps) ⟨by decide, by decide⟩,
    run_of_phase (fun _ => phase_of_mem_keptPhase) ⟨by decide, by decide⟩,
    run_of_phase (fun _ => phase_of_mem_tableCreations) ⟨by decide, by decide⟩,
    run_of_phase (fun _ => phase_of_mem_tableDrops) ⟨by decide, by decide⟩]

end TypeStore

/-! ## Plans -/

/-- A type store holds the types **as they are to be**: the enumerations of the new schema with
their values, and the types of the old schema that are no such enumerations. -/
structure TypesEvolved (old new : Schema) (store : TypeStore) : Prop where
  /-- Every enumeration of the new schema has exactly its values, in their order. -/
  enumeration : ∀ name values, new.types.get? name = some (.enumeration values) →
    store name = some (.enumeration values)
  /-- Under every other name stands what stood there in the old schema. -/
  other : ∀ name, (∀ values, new.types.get? name ≠ some (.enumeration values)) →
    store name = old.types.get? name

/-- The new enumerations over the old types are the types as they are to be. -/
theorem typesEvolved_evolved (old new : Schema) :
    TypesEvolved old new (TypeStore.evolved old new) where
  enumeration name values h := by
    have hlisted : TypeStore.enumerations new.types.entries name = some (.enumeration values) := by
      show (new.types.get? name).filter TypeDefinition.isEnumeration = _
      rw [h]
      rfl
    rw [TypeStore.evolved, overlay, if_pos rfl, hlisted, Option.some_or]
  other name h := by
    have hnone : TypeStore.enumerations new.types.entries name = none := by
      show (new.types.get? name).filter TypeDefinition.isEnumeration = none
      rw [Option.filter_eq_none_iff]
      intro definition hdefinition
      cases definition with
      | enumeration values => exact absurd hdefinition (h values)
      | composite text => exact Bool.false_ne_true
    rw [TypeStore.evolved, overlay, if_pos rfl, hnone, Option.none_or]
    rfl

/-- **Types evolve soundly.** A plan reports a conflict exactly when some type that both schemas
declare does not grow. Where it reports none, its steps about enumerations can be run in order on
the types of the old schema, and give the types as they are to be. -/
theorem plan_types_evolve (options : MatchOptions) (old new : Schema) (steps : List Step)
    (hplan : plan options old new = .ok steps) :
    (ReportsConflict steps ↔
      ∃ name former definition, old.types.get? name = some former ∧
        new.types.get? name = some definition ∧ ¬former.GrowsTo definition) ∧
    (¬ReportsConflict steps →
      ∃ store, (TypeStore.ofSchema old).run steps = some store ∧ TypesEvolved old new store) := by
  obtain rfl := eq_planSteps_of_plan hplan
  rw [reportsConflict_iff_not_typesGrow, not_not]
  constructor
  · unfold Schema.TypesGrow
    simp only [not_forall, exists_prop]
  · intro hgrow
    exact ⟨_, TypeStore.run_planSteps hgrow, typesEvolved_evolved old new⟩

namespace Sample

/-- A schema with an enumeration that grows, a composite type, and an enumeration that is given
up. -/
def drafted : Schema where
  types := .ofList [("mood", .enumeration ["ok"]), ("point", .composite "(x INT)"),
    ("spare", .enumeration ["a"])]
  tables := .empty

/-- The schema that it becomes, with an enumeration and a composite type that are new. -/
def released : Schema where
  types := .ofList [("point", .composite "(x INT)"), ("level", .enumeration ["low", "high"]),
    ("mood", .enumeration ["ok", "sad", "calm"]), ("box", .composite "(y INT)")]
  tables := .empty

/-- The plan from the one to the other. -/
def releaseSteps : List Step :=
  [.addEnumValue "mood" "sad", .addEnumValue "mood" "calm", .createEnum "level" ["low", "high"]]

end Sample

/-- The sample gives its enumerations their values, keeps the one that is given up, and leaves the
new composite type to be declared by hand. -/
theorem sample_types_evolve :
    plan .standard Sample.drafted Sample.released = .ok Sample.releaseSteps ∧
      ∃ store, (TypeStore.ofSchema Sample.drafted).run Sample.releaseSteps = some store ∧
        store "mood" = some (.enumeration ["ok", "sad", "calm"]) ∧
        store "level" = some (.enumeration ["low", "high"]) ∧
        store "spare" = some (.enumeration ["a"]) ∧ store "box" = none := by
  have hplan : plan .standard Sample.drafted Sample.released = .ok Sample.releaseSteps := by
    decide +kernel
  have hquiet : ¬ReportsConflict Sample.releaseSteps := by
    rintro ⟨text, hmem⟩
    simp [Sample.releaseSteps] at hmem
  obtain ⟨store, hrun, hevolved⟩ :=
    (plan_types_evolve .standard Sample.drafted Sample.released _ hplan).2 hquiet
  refine ⟨hplan, store, hrun, hevolved.enumeration _ _ (by decide +kernel),
    hevolved.enumeration _ _ (by decide +kernel), ?_, ?_⟩
  · rw [hevolved.other "spare" fun values h => by cases h]
    decide +kernel
  · rw [hevolved.other "box" fun values h => by cases h]
    decide +kernel

end SchemaEvolution
