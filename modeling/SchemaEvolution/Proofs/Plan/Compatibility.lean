import SchemaEvolution.Proofs.Plan.Unchanged

/-! # Types that only grow
A type that both schemas declare is compatible when it **grows**: an enumeration starts with its old
values, a composite type has its old definition. The first phase of a plan reports a conflict
exactly when some type does not grow. The comparison ends early at a changed composite type, but
that one is reported itself, so no conflict is hidden behind it. -/

namespace SchemaEvolution

/-- A type **grows** to another one: values are only added at the end of an enumeration, and a
composite type stays as it is. -/
def TypeDefinition.GrowsTo : TypeDefinition → TypeDefinition → Prop
  | .enumeration old, .enumeration new => old <+: new
  | .composite old, .composite new => old = new
  | .enumeration _, .composite _ => False
  | .composite _, .enumeration _ => False

/-- Every type that both schemas declare grows from the old one to the new one. -/
def Schema.TypesGrow (old new : Schema) : Prop :=
  ∀ name former definition, old.types.get? name = some former →
    new.types.get? name = some definition → former.GrowsTo definition

/-- Some step of a list reports a conflict. -/
def ReportsConflict (steps : List Step) : Prop := ∃ text, .error text ∈ steps

/-- No steps report no conflict. -/
@[simp] theorem not_reportsConflict_nil : ¬ReportsConflict [] := by
  rintro ⟨text, h⟩
  cases h

/-- A list reports a conflict when its first or its second part does. -/
theorem reportsConflict_append (first second : List Step) :
    ReportsConflict (first ++ second) ↔ ReportsConflict first ∨ ReportsConflict second := by
  simp only [ReportsConflict, List.mem_append, exists_or]

/-- A conflict at the head is reported. -/
theorem reportsConflict_step_cons (conflict : TypeConflict) (steps : List Step) :
    ReportsConflict (conflict.step :: steps) := ⟨conflict.message, List.mem_cons_self⟩

/-- Steps of other kinds report no conflict. -/
theorem not_reportsConflict_of_forall {steps : List Step}
    (h : ∀ step ∈ steps, ∀ text, step ≠ .error text) : ¬ReportsConflict steps :=
  fun ⟨text, hmem⟩ => h _ hmem text rfl

/-! ## Enumerations -/

/-- Conflicts between values are reported as soon as there is one. -/
theorem reportsConflict_valueConflicts_iff (typeName : String) (old new : List String) :
    ReportsConflict (valueConflicts typeName old new) ↔ ¬(old <+: new ∨ new <+: old) := by
  rw [← valueConflicts_eq_nil_iff typeName old new]
  constructor
  · rintro h hnil
    rw [hnil] at h
    exact not_reportsConflict_nil h
  · intro h
    obtain ⟨step, hstep⟩ := List.exists_mem_of_ne_nil _ h
    obtain ⟨text, rfl⟩ := exists_error_of_mem_valueConflicts hstep
    exact ⟨text, hstep⟩

/-- Removed values are reported as soon as there is one. -/
theorem reportsConflict_removed_iff (typeName : String) (values : List String) :
    ReportsConflict (values.map fun value => (TypeConflict.removedValue typeName value).step) ↔
      values ≠ [] := by
  cases values with
  | nil => simp
  | cons value rest =>
    exact ⟨fun _ => List.cons_ne_nil value rest, fun _ => reportsConflict_step_cons _ _⟩

/-- A change of an enumeration reports a conflict exactly when the new values do not start with the
old ones. -/
theorem reportsConflict_enumerationChanges_iff (typeName : String) (old new : List String) :
    ReportsConflict (enumerationChanges typeName old new) ↔ ¬old <+: new := by
  have hadded : ¬ReportsConflict ((new.drop old.length).map (.addEnumValue typeName)) :=
    not_reportsConflict_of_forall fun step hstep text e => by
      obtain ⟨value, -, rfl⟩ := List.mem_map.mp hstep
      cases e
  rw [enumerationChanges, reportsConflict_append, reportsConflict_append, or_iff_left hadded,
    reportsConflict_valueConflicts_iff, reportsConflict_removed_iff, Ne, List.drop_eq_nil_iff,
    ← not_and_or, not_iff_not]
  constructor
  · -- the old values are not more than the new ones, so they are the ones that come first
    rintro ⟨hstarts | hstarts, hlength⟩
    · exact hstarts
    · exact hstarts.eq_of_length (Nat.le_antisymm hstarts.length_le hlength) ▸ List.prefix_refl _
  · exact fun h => ⟨.inl h, h.length_le⟩

/-! ## All types -/

/-- **The first phase reports a conflict exactly when a type of the list does not grow** from the
one that the old catalog has under its name. -/
theorem reportsConflict_typeChanges_iff (old : Catalog TypeDefinition)
    (types : List (String × TypeDefinition)) :
    ReportsConflict (typeChanges old types) ↔
      ∃ entry ∈ types, ∃ former, old.get? entry.1 = some former ∧ ¬former.GrowsTo entry.2 := by
  induction types with
  | nil => simp [typeChanges]
  | cons entry rest ih =>
    obtain ⟨name, definition⟩ := entry
    rw [typeChanges]
    simp only [List.exists_mem_cons_iff, ← ih]
    -- a type that was not there cannot be in conflict
    cases hformer : old.get? name with
    | none => simp
    | some former =>
      cases former with
      | enumeration oldValues =>
        cases definition with
        | enumeration newValues =>
          simp [reportsConflict_append, reportsConflict_enumerationChanges_iff,
            TypeDefinition.GrowsTo]
        | composite text =>
          simp [reportsConflict_step_cons, TypeDefinition.GrowsTo]
      | composite oldText =>
        cases definition with
        | enumeration newValues => simp [reportsConflict_step_cons, TypeDefinition.GrowsTo]
        | composite newText =>
          by_cases htext : oldText = newText
          · simp [htext, TypeDefinition.GrowsTo]
          · -- the comparison ends here, with a conflict
            simp [htext, TypeDefinition.GrowsTo, reportsConflict_step_cons]

variable {matching : Matching} {old new : Schema}

/-- The steps of a plan that report a conflict are those of the first phase. -/
theorem reportsConflict_planSteps_iff (matching : Matching) (old new : Schema) :
    ReportsConflict (planSteps matching old new) ↔
      ReportsConflict (typeChanges old.types new.types.entries) := by
  constructor
  · rintro ⟨text, hmem⟩
    rcases mem_planSteps_iff.mp hmem with htypes | ⟨pair, -, he⟩ | ⟨table, -, hchanges⟩ | henums |
      ⟨table, -, -, hcreation⟩ | ⟨table, -, -, hdrop⟩
    · exact ⟨text, htypes⟩
    · cases he
    · obtain ⟨former, -, hchanges⟩ := changesTable_of_mem_keptSteps hchanges
      cases hchanges with
      | altered column former _ _ _ halters => cases halters
    · obtain ⟨name, values, he⟩ := shape_of_mem_typeCreations henums
      cases he
    · rcases shape_of_mem_tableCreation hcreation with he | ⟨_, he⟩ | ⟨_, _, -, -, he⟩ <;> cases he
    · rcases shape_of_mem_tableDrop hdrop with ⟨_, he⟩ | he <;> cases he
  · exact fun ⟨text, hmem⟩ => ⟨text, mem_planSteps_iff.mpr (.inl hmem)⟩

/-- **A plan reports a conflict exactly when some type of both schemas does not grow.** -/
theorem reportsConflict_iff_not_typesGrow (matching : Matching) (old new : Schema) :
    ReportsConflict (planSteps matching old new) ↔ ¬old.TypesGrow new := by
  rw [reportsConflict_planSteps_iff, reportsConflict_typeChanges_iff]
  unfold Schema.TypesGrow
  simp only [not_forall]
  constructor
  · rintro ⟨entry, hentry, former, hformer, hnot⟩
    exact ⟨entry.1, former, entry.2, hformer, new.types.get?_of_mem hentry, hnot⟩
  · rintro ⟨name, former, definition, hformer, hdefinition, hnot⟩
    exact ⟨(name, definition), (new.types.get?_eq_some_iff name definition).mp hdefinition, former,
      hformer, hnot⟩

end SchemaEvolution
