import SchemaEvolution.Proofs.Plan.Compatibility
import SchemaEvolution.Proofs.Plan.Order

/-! # Values that are added to an enumeration
Two enumerations are compared place by place, and the values behind the places of the old ones are
added. A value that only moved behind those places is therefore added although the enumeration has
it; `sample_moved_value_added` is such a plan. There is no other way to add a value that is there:
it is there exactly when an earlier step reports that another value took its place. -/

namespace SchemaEvolution

/-! ## Values of enumerations -/

/-- A type repeats no value. A composite type has no values. -/
def TypeDefinition.ValuesDistinct : TypeDefinition → Prop
  | .enumeration values => values.Nodup
  | .composite _ => True

instance (definition : TypeDefinition) : Decidable definition.ValuesDistinct :=
  match definition with
  | .enumeration values => inferInstanceAs (Decidable values.Nodup)
  | .composite _ => inferInstanceAs (Decidable True)

namespace Schema

/-- No enumeration of the schema repeats a value. -/
def ValuesDistinct (schema : Schema) : Prop :=
  ∀ entry ∈ schema.types.entries, entry.2.ValuesDistinct

instance (schema : Schema) : Decidable schema.ValuesDistinct :=
  inferInstanceAs (Decidable (∀ entry ∈ schema.types.entries, entry.2.ValuesDistinct))

/-- An enumeration of the schema **has a value**. -/
def HasValue (schema : Schema) (typeName value : String) : Prop :=
  ∃ values, schema.types.get? typeName = some (.enumeration values) ∧ value ∈ values

/-- A value of an enumeration is **displaced** by another one, which stands in the new schema where
the value stands in the old one. -/
def Displaced (old new : Schema) (typeName value other : String) : Prop :=
  ∃ (former values : List String) (place : Nat),
    old.types.get? typeName = some (.enumeration former) ∧
      new.types.get? typeName = some (.enumeration values) ∧
      former[place]? = some value ∧ values[place]? = some other ∧ value ≠ other

/-- A displaced value is one that the old schema has. -/
theorem Displaced.hasValue {old new : Schema} {typeName value other : String}
    (h : old.Displaced new typeName value other) : old.HasValue typeName value := by
  obtain ⟨former, values, place, hformer, -, hvalue, -, -⟩ := h
  exact ⟨former, hformer, List.mem_of_getElem? hvalue⟩

end Schema

/-- Every value that the steps add is one that the old schema lacks. -/
def AddsLackingValues (old : Schema) (steps : List Step) : Prop :=
  ∀ typeName value, .addEnumValue typeName value ∈ steps → ¬old.HasValue typeName value

/-! ## The place of an added value -/

/-- Different values at the same place are reported. -/
theorem changedValue_mem_valueConflicts {typeName value other : String} {old new : List String}
    {place : Nat} (hold : old[place]? = some value) (hnew : new[place]? = some other)
    (hne : value ≠ other) :
    (TypeConflict.changedValue typeName value other).step ∈ valueConflicts typeName old new := by
  induction old generalizing new place with
  | nil => cases hold
  | cons first olds ih =>
    cases new with
    | nil => cases hnew
    | cons next news =>
      rw [valueConflicts]
      cases place with
      | zero =>
        obtain rfl := Option.some.inj hold
        obtain rfl := Option.some.inj hnew
        rw [if_neg hne]
        exact List.mem_cons_self
      | succ place =>
        have hrest := ih hold hnew
        split
        · exact hrest
        · exact List.mem_cons_of_mem _ hrest

/-- A list of steps **leads up to** a value that is added to an enumeration: steps that add no value
to it come first, then its conflicts, then the new values that stand before the added one. -/
def LeadsUpTo (typeName value : String) (former values : List String) (steps : List Step) : Prop :=
  ∃ front added rest, values.drop former.length = added ++ value :: rest ∧
    steps = front ++ (valueConflicts typeName former values ++
      added.map (.addEnumValue typeName)) ∧
    ∀ other, .addEnumValue typeName other ∉ front

/-- Steps that add no value to the enumeration may come before. -/
theorem LeadsUpTo.append_left {typeName value : String} {former values : List String}
    {steps first : List Step} (h : LeadsUpTo typeName value former values steps)
    (hfirst : ∀ other, .addEnumValue typeName other ∉ first) :
    LeadsUpTo typeName value former values (first ++ steps) := by
  obtain ⟨front, added, rest, hdrop, rfl, hfront⟩ := h
  refine ⟨first ++ front, added, rest, hdrop, by rw [List.append_assoc], fun other hother => ?_⟩
  rcases List.mem_append.mp hother with hmem | hmem
  · exact hfirst other hmem
  · exact hfront other hmem

/-- **The changes of an enumeration lead up to each value that they add.** -/
theorem leadsUpTo_of_enumerationChanges {name typeName value : String} {old new : List String}
    {earlier later : List Step}
    (h : enumerationChanges name old new = earlier ++ .addEnumValue typeName value :: later) :
    typeName = name ∧ LeadsUpTo name value old new earlier := by
  rw [enumerationChanges] at h
  rcases split_append h with ⟨middle, hconflicts⟩ | ⟨middle, rfl, hadded⟩
  · -- conflicts are reported, not executed
    have hmem : Step.addEnumValue typeName value ∈ valueConflicts name old new ++
        (old.drop new.length).map fun value => (TypeConflict.removedValue name value).step := by
      rw [hconflicts]
      exact List.mem_append_right _ List.mem_cons_self
    rcases List.mem_append.mp hmem with hchanged | hremoved
    · obtain ⟨text, he⟩ := exists_error_of_mem_valueConflicts hchanged
      cases he
    · obtain ⟨removed, -, he⟩ := List.mem_map.mp hremoved
      cases he
  · obtain ⟨added, tail, hdrop, rfl, htail⟩ := List.map_eq_append_iff.mp hadded
    obtain ⟨first, rest, rfl, hfirst, -⟩ := List.map_eq_cons_iff.mp htail
    obtain ⟨rfl, rfl⟩ := Step.addEnumValue.inj hfirst
    -- there are more new values than old ones, so no value is removed
    have hlonger : old.length < new.length := by
      have hlength := congrArg List.length hdrop
      rw [List.length_drop, List.length_append, List.length_cons] at hlength
      omega
    refine ⟨rfl, [], added, rest, hdrop, ?_, by simp⟩
    rw [List.drop_eq_nil_of_le (Nat.le_of_lt hlonger), List.map_nil, List.append_nil,
      List.nil_append]

/-- Steps lead up to a value that is added to an enumeration which the old schema has and which is
one of the listed types. -/
def LeadsUpToListed (old : Catalog TypeDefinition) (types : List (String × TypeDefinition))
    (typeName value : String) (steps : List Step) : Prop :=
  ∃ former values, old.get? typeName = some (.enumeration former) ∧
    (typeName, .enumeration values) ∈ types ∧ LeadsUpTo typeName value former values steps

section Types

variable {old : Catalog TypeDefinition} {types : List (String × TypeDefinition)}
  {typeName value : String} {earlier later : List Step}

/-- A type without steps may come first. -/
theorem LeadsUpToListed.cons_type {steps : List Step}
    (h : LeadsUpToListed old types typeName value steps) (entry : String × TypeDefinition) :
    LeadsUpToListed old (entry :: types) typeName value steps := by
  obtain ⟨former, values, hformer, hmem, hleads⟩ := h
  exact ⟨former, values, hformer, List.mem_cons_of_mem _ hmem, hleads⟩

/-- The steps of a type come before a value that is added to another type. -/
theorem LeadsUpToListed.cons {steps first : List Step} {entry : String × TypeDefinition}
    (h : LeadsUpToListed old types typeName value steps) (hentry : entry.1 ∉ types.map Prod.fst)
    (hfirst : ∀ other, .addEnumValue typeName other ∈ first → typeName = entry.1) :
    LeadsUpToListed old (entry :: types) typeName value (first ++ steps) := by
  obtain ⟨former, values, hformer, hmem, hleads⟩ := h.cons_type entry
  have hne : typeName ≠ entry.1 := by
    obtain ⟨-, values, -, hlisted, -⟩ := h
    intro he
    apply hentry
    rw [← he]
    exact List.mem_map_of_mem hlisted
  exact ⟨former, values, hformer, hmem,
    hleads.append_left fun other hother => hne (hfirst other hother)⟩

/-- A conflict in front of other steps is not the step that adds a value. -/
theorem exists_of_conflict_cons {conflict : TypeConflict} {steps : List Step}
    (h : conflict.step :: steps = earlier ++ .addEnumValue typeName value :: later) :
    ∃ middle, earlier = [conflict.step] ++ middle ∧
      steps = middle ++ .addEnumValue typeName value :: later := by
  cases earlier with
  | nil => cases h
  | cons head middle =>
    obtain ⟨rfl, htail⟩ := List.cons.inj h
    exact ⟨middle, rfl, htail⟩

/-- A conflict adds no value. -/
theorem addEnumValue_not_mem_conflict (conflict : TypeConflict) (typeName other : String) :
    Step.addEnumValue typeName other ∉ [conflict.step] := by
  intro hmem
  cases List.mem_singleton.mp hmem

/-- **The changes of all types lead up to each value that they add.** -/
theorem leadsUpToListed_of_typeChanges (hnodup : (types.map Prod.fst).Nodup)
    (h : typeChanges old types = earlier ++ .addEnumValue typeName value :: later) :
    LeadsUpToListed old types typeName value earlier := by
  induction types generalizing earlier with
  | nil =>
    rw [typeChanges] at h
    cases earlier <;> cases h
  | cons entry types ih =>
    obtain ⟨name, definition⟩ := entry
    rw [List.map_cons, List.nodup_cons] at hnodup
    obtain ⟨hname, hnodup⟩ := hnodup
    -- a conflict adds no value, so the changes behind it decide
    have hconflict : ∀ conflict : TypeConflict,
        conflict.step :: typeChanges old types = earlier ++ .addEnumValue typeName value :: later →
        LeadsUpToListed old ((name, definition) :: types) typeName value earlier := by
      intro conflict hsplit
      obtain ⟨middle, rfl, hrest⟩ := exists_of_conflict_cons hsplit
      exact (ih hnodup hrest).cons hname fun other hmem =>
        absurd hmem (addEnumValue_not_mem_conflict conflict typeName other)
    rw [typeChanges] at h
    cases hformer : old.get? name with
    | none =>
      rw [hformer] at h
      exact (ih hnodup h).cons_type _
    | some former =>
      rw [hformer] at h
      cases former with
      | enumeration former =>
        cases definition with
        | enumeration values =>
          -- the value is added to this enumeration or to a later one
          rcases split_append h with ⟨middle, hfirst⟩ | ⟨middle, rfl, hsecond⟩
          · obtain ⟨rfl, hleads⟩ := leadsUpTo_of_enumerationChanges hfirst
            exact ⟨former, values, hformer, List.mem_cons_self, hleads⟩
          · refine (ih hnodup hsecond).cons hname fun other hmem => ?_
            obtain ⟨earlier, later, hsplit⟩ := List.append_of_mem hmem
            exact (leadsUpTo_of_enumerationChanges hsplit).1
        | composite text => exact hconflict _ h
      | composite former =>
        cases definition with
        | enumeration values => exact hconflict _ h
        | composite text =>
          dsimp only at h
          split at h
          · exact (ih hnodup h).cons_type _
          · -- the comparison ends with this conflict
            obtain ⟨middle, rfl, hrest⟩ := exists_of_conflict_cons h
            cases middle <;> cases hrest

end Types

/-! ## Plans -/

variable {options : MatchOptions} {old new : Schema} {earlier later : List Step}
  {typeName value : String}

/-- **A plan leads up to each value that it adds**: only its first phase adds values. -/
theorem exists_leadsUpTo_of_plan
    (h : plan options old new = .ok (earlier ++ .addEnumValue typeName value :: later)) :
    ∃ former values, old.types.get? typeName = some (.enumeration former) ∧
      new.types.get? typeName = some (.enumeration values) ∧
      LeadsUpTo typeName value former values earlier := by
  have hsplit := eq_planSteps_of_plan h
  simp only [planSteps, List.append_assoc] at hsplit
  rcases split_append hsplit.symm with ⟨middle, hfirst⟩ | ⟨middle, rfl, hsecond⟩
  · obtain ⟨former, values, hformer, hmem, hleads⟩ :=
      leadsUpToListed_of_typeChanges new.types.nodup_names hfirst
    exact ⟨former, values, hformer, new.types.get?_of_mem hmem, hleads⟩
  · have hmem : Step.addEnumValue typeName value ∈
        middle ++ .addEnumValue typeName value :: later :=
      List.mem_append_right _ List.mem_cons_self
    -- behind the first phase no step adds a value
    rw [← hsecond] at hmem
    simp only [List.mem_append] at hmem
    rcases hmem with hrename | hkept | henum | hcreation | hdrop
    · cases phase_of_mem_renameSteps hrename
    · cases phase_of_mem_keptPhase hkept
    · cases phase_of_mem_typeCreations henum
    · cases phase_of_mem_tableCreations hcreation
    · cases phase_of_mem_tableDrops hdrop

/-- What leads up to an added value adds other values only, where the new values are distinct. -/
theorem LeadsUpTo.addEnumValue_not_mem {former values : List String} {steps : List Step}
    (h : LeadsUpTo typeName value former values steps) (hdistinct : values.Nodup) :
    .addEnumValue typeName value ∉ steps := by
  obtain ⟨front, added, rest, hdrop, rfl, hfront⟩ := h
  intro hmem
  rcases List.mem_append.mp hmem with hmem | hmem
  · exact hfront value hmem
  rcases List.mem_append.mp hmem with hmem | hmem
  · obtain ⟨text, he⟩ := exists_error_of_mem_valueConflicts hmem
    cases he
  · obtain ⟨other, hother, he⟩ := List.mem_map.mp hmem
    obtain ⟨-, rfl⟩ := Step.addEnumValue.inj he
    have htail : (added ++ other :: rest).Nodup := hdrop ▸ hdistinct.sublist (List.drop_sublist _ _)
    exact (List.nodup_append.mp htail).2.2 other hother other List.mem_cons_self rfl

/-- Where the new values are distinct, an old value is added only after the report that another
value took its place. -/
theorem LeadsUpTo.exists_displaced {former values : List String} {steps : List Step}
    (h : LeadsUpTo typeName value former values steps) (hdistinct : values.Nodup)
    (hmem : value ∈ former) :
    ∃ (place : Nat) (other : String), former[place]? = some value ∧ values[place]? = some other ∧
      value ≠ other ∧ (TypeConflict.changedValue typeName value other).step ∈ steps := by
  obtain ⟨front, added, rest, hdrop, rfl, -⟩ := h
  obtain ⟨place, hplace, hvalue⟩ := List.getElem_of_mem hmem
  -- the added value stands behind the places of the old ones, so each of these has a new value
  have hbehind : values[former.length + added.length]? = some value := by
    rw [← List.getElem?_drop, hdrop, List.getElem?_append_right (Nat.le_refl _), Nat.sub_self]
    rfl
  obtain ⟨hlength, hlast⟩ := List.getElem?_eq_some_iff.mp hbehind
  have hnew : place < values.length := by omega
  have hne : value ≠ values[place] := by
    intro he
    rw [← hlast] at he
    have hsame := hdistinct.getElem_inj_iff.mp he
    omega
  have hold : former[place]? = some value := List.getElem?_eq_some_iff.mpr ⟨hplace, hvalue⟩
  have hother : values[place]? = some values[place] := List.getElem?_eq_getElem hnew
  refine ⟨place, values[place], hold, hother, hne, ?_⟩
  exact List.mem_append_right _
    (List.mem_append_left _ (changedValue_mem_valueConflicts hold hother hne))

namespace Sample

/-- A schema with an enumeration of two values. -/
def moody : Schema where
  types := .ofList [("mood", .enumeration ["ok", "sad"])]
  tables := .empty

/-- The schema in which the first value moved to the end, with a new one behind it. -/
def calmer : Schema where
  types := .ofList [("mood", .enumeration ["calm", "sad", "ok", "glad"])]
  tables := .empty

/-- The plan from the one to the other. -/
def moodSteps : List Step :=
  [(TypeConflict.changedValue "mood" "ok" "calm").step, .addEnumValue "mood" "ok",
    .addEnumValue "mood" "glad"]

/-- The plan between the two sample schemas. -/
theorem plan_moody_calmer : plan .standard moody calmer = .ok moodSteps := by decide +kernel

end Sample

/-- A value that the enumeration **has already** is added where it moved behind the old places. -/
theorem sample_moved_value_added :
    Sample.moody.ValuesDistinct ∧ Sample.calmer.ValuesDistinct ∧
      plan .standard Sample.moody Sample.calmer = .ok Sample.moodSteps ∧
      ¬AddsLackingValues Sample.moody Sample.moodSteps := by
  refine ⟨by decide +kernel, by decide +kernel, Sample.plan_moody_calmer, fun h => ?_⟩
  have hadded : Step.addEnumValue "mood" "ok" ∈ Sample.moodSteps :=
    List.mem_cons_of_mem _ List.mem_cons_self
  exact h "mood" "ok" hadded ⟨["ok", "sad"], rfl, List.mem_cons_self⟩

/-- **A value is added that is there exactly when it is displaced.** Let no enumeration of the new
schema repeat a value. When a plan comes to add a value to an enumeration, the old schema has that
value or an earlier step adds it exactly when another value stands in its place in the new schema,
and an earlier step reports this. Whatever else is reported of the enumeration does not matter. -/
theorem added_value_there_iff_displaced (options : MatchOptions) (old new : Schema)
    (earlier later : List Step) (typeName value : String) (hdistinct : new.ValuesDistinct)
    (hplan : plan options old new = .ok (earlier ++ .addEnumValue typeName value :: later)) :
    (old.HasValue typeName value ∨ .addEnumValue typeName value ∈ earlier) ↔
      ∃ other, old.Displaced new typeName value other ∧
        (TypeConflict.changedValue typeName value other).step ∈ earlier := by
  obtain ⟨former, values, hformer, hvalues, hleads⟩ := exists_leadsUpTo_of_plan hplan
  have hnodup : values.Nodup :=
    hdistinct _ ((new.types.get?_eq_some_iff typeName (.enumeration values)).mp hvalues)
  constructor
  · rintro (⟨others, hothers, hmem⟩ | hadded)
    · rw [hformer] at hothers
      obtain ⟨rfl⟩ := hothers
      obtain ⟨place, other, hold, hnew, hne, hreported⟩ := hleads.exists_displaced hnodup hmem
      exact ⟨other, ⟨former, values, place, hformer, hvalues, hold, hnew, hne⟩, hreported⟩
    · exact absurd hadded (hleads.addEnumValue_not_mem hnodup)
  · rintro ⟨other, hdisplaced, -⟩
    exact .inl hdisplaced.hasValue

/-- In the sample the value that moved is there, and its old place is reported; the value behind it
is not there. -/
theorem sample_displaced_value :
    Sample.calmer.ValuesDistinct ∧
      plan .standard Sample.moody Sample.calmer = .ok Sample.moodSteps ∧
      (∃ other, Sample.moody.Displaced Sample.calmer "mood" "ok" other ∧
        (TypeConflict.changedValue "mood" "ok" other).step ∈ Sample.moodSteps.take 1) ∧
      ¬(Sample.moody.HasValue "mood" "glad" ∨
        .addEnumValue "mood" "glad" ∈ Sample.moodSteps.take 2) := by
  have hdistinct : Sample.calmer.ValuesDistinct := by decide +kernel
  have hmoved := added_value_there_iff_displaced .standard Sample.moody Sample.calmer
    (Sample.moodSteps.take 1) (Sample.moodSteps.drop 2) "mood" "ok" hdistinct
    Sample.plan_moody_calmer
  have hlast := added_value_there_iff_displaced .standard Sample.moody Sample.calmer
    (Sample.moodSteps.take 2) [] "mood" "glad" hdistinct Sample.plan_moody_calmer
  refine ⟨hdistinct, Sample.plan_moody_calmer,
    hmoved.mp (.inl ⟨["ok", "sad"], rfl, List.mem_cons_self⟩), fun hthere => ?_⟩
  -- a displaced value would be one of the two old ones
  obtain ⟨other, hdisplaced, -⟩ := hlast.mp hthere
  obtain ⟨values, hvalues, hmem⟩ := hdisplaced.hasValue
  obtain rfl : ["ok", "sad"] = values := by
    have hget : Sample.moody.types.get? "mood" = some (.enumeration ["ok", "sad"]) := rfl
    rw [hget] at hvalues
    cases hvalues
    rfl
  exact absurd hmem (by decide)

end SchemaEvolution
