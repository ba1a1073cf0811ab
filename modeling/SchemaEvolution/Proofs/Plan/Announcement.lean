import SchemaEvolution.Proofs.Plan.Accounting

/-! # Announced steps
Two kinds of steps never come unannounced. A copy of data stands right behind the creation of the
table that it fills and a remark that names both tables, and the drop of a table stands right behind
a warning that names it. Announced lists can be put one behind the other, so it is enough to look at
the phases of a plan one by one. -/

namespace SchemaEvolution

/-- What stands **right in front** of a step, where something must; the list holds the steps before
it. -/
def Step.AnnouncedBy (earlier : List Step) : Step → Prop
  | .copyData source target _ => ∃ columns,
    [.createTable target columns,
      .note ("Migrate data from " ++ source ++ " to " ++ target ++ " (similar columns detected)")]
        <:+ earlier
  | .dropTable table =>
    [.caution ("Dropping table " ++ table ++ " will permanently delete its data")] <:+ earlier
  | _ => True

/-- What stands right in front of a step stays there when other steps come first. -/
theorem Step.AnnouncedBy.append_left {step : Step} {earlier : List Step}
    (h : step.AnnouncedBy earlier) (first : List Step) : step.AnnouncedBy (first ++ earlier) := by
  cases step with
  | copyData source target columns =>
    obtain ⟨declared, hsuffix⟩ := h
    exact ⟨declared, hsuffix.trans (List.suffix_append first earlier)⟩
  | dropTable table => exact List.IsSuffix.trans h (List.suffix_append first earlier)
  | _ => trivial

/-- Steps are **announced** when each of them stands right behind what announces it. -/
def Announced (steps : List Step) : Prop :=
  ∀ earlier step later, steps = earlier ++ step :: later → step.AnnouncedBy earlier

namespace Announced

variable {steps first second : List Step} {step : Step}

/-- Where there are no steps, all are announced. -/
theorem nil : Announced [] := by
  intro earlier step later h
  cases earlier <;> cases h

/-- Announced steps can be put one behind the other. -/
theorem append (hfirst : Announced first) (hsecond : Announced second) :
    Announced (first ++ second) := by
  intro earlier step later h
  rcases split_append h with ⟨middle, hfront⟩ | ⟨middle, rfl, hrest⟩
  · exact hfirst earlier step middle hfront
  · exact (hsecond middle step later hrest).append_left first

/-- A step is put behind the steps that announce it. -/
theorem concat (h : Announced steps) (hstep : step.AnnouncedBy steps) :
    Announced (steps ++ [step]) := by
  intro earlier other later hsplit
  rcases List.eq_nil_or_concat later with rfl | ⟨front, last, rfl⟩
  · obtain ⟨rfl, hsame⟩ := List.append_inj' hsplit rfl
    obtain ⟨rfl, -⟩ := List.cons.inj hsame
    exact hstep
  · rw [List.concat_eq_append, ← List.cons_append, ← List.append_assoc] at hsplit
    obtain ⟨hsteps, -⟩ := List.append_inj' hsplit rfl
    exact h earlier other front hsteps

/-- Announced lists can be put together to one. -/
theorem flatMap {α : Type} {xs : List α} {f : α → List Step} (h : ∀ x ∈ xs, Announced (f x)) :
    Announced (xs.flatMap f) := by
  induction xs with
  | nil => exact nil
  | cons x xs ih =>
    rw [List.forall_mem_cons] at h
    rw [List.flatMap_cons]
    exact h.1.append (ih h.2)

/-- Steps that neither copy nor drop need no announcement. -/
theorem of_quiet (h : ∀ step ∈ steps, ∀ earlier, step.AnnouncedBy earlier) : Announced steps := by
  intro earlier step later hsplit
  refine h step ?_ earlier
  rw [hsplit]
  exact List.mem_append_right earlier List.mem_cons_self

/-- Steps that move no table need no announcement. -/
theorem of_movedTables_eq_nil (h : ∀ step ∈ steps, step.movedTables = []) : Announced steps := by
  refine of_quiet fun step hstep earlier => ?_
  have hquiet := h step hstep
  cases step with
  | copyData source target columns => cases hquiet
  | dropTable table => cases hquiet
  | _ => trivial

end Announced

/-! ## The phases of a plan -/

variable {matching : Matching} {old new : Schema}

/-- Renames need no announcement. -/
theorem announced_renameSteps : Announced (renameSteps matching) := by
  refine .of_quiet fun step hstep earlier => ?_
  obtain ⟨pair, -, rfl⟩ := List.mem_map.mp hstep
  trivial

/-- A hint is announced by the creation that it follows. -/
theorem announced_copyHint (source : String) (table : NamedTable) (shared : List String) :
    Announced (.createTable table.1 table.2 :: copyHint source table.1 shared) := by
  have hcreate : Announced [.createTable table.1 table.2] := Announced.nil.concat trivial
  unfold copyHint
  by_cases hshared : shared.isEmpty = true
  · rw [if_pos hshared]
    exact hcreate
  · have hremark : Announced [.createTable table.1 table.2,
        .note ("Migrate data from " ++ source ++ " to " ++ table.1 ++
          " (similar columns detected)")] := hcreate.concat trivial
    rw [if_neg hshared]
    exact hremark.concat ⟨table.2, List.suffix_refl _⟩

/-- The creation of a table announces the copy into it. -/
theorem announced_tableCreation (table : NamedTable) :
    Announced (tableCreation matching old table) := by
  have hcreate : Announced [.createTable table.1 table.2] := Announced.nil.concat trivial
  unfold tableCreation
  cases matching.replacedBy? table.1 with
  | none => exact hcreate
  | some source =>
    dsimp only
    cases old.tables.get? source with
    | none => exact hcreate
    | some former => exact announced_copyHint source table _

/-- The warning announces the drop. -/
theorem announced_tableDrop (table : String) : Announced (tableDrop table) := by
  have hwarning : Announced
      [.caution ("Dropping table " ++ table ++ " will permanently delete its data")] :=
    Announced.nil.concat trivial
  exact hwarning.concat (List.suffix_refl _)

/-- **The steps of a plan are announced.** -/
theorem announced_planSteps (matching : Matching) (old new : Schema) :
    Announced (planSteps matching old new) := by
  have htypes : Announced (typeChanges old.types new.types.entries) :=
    .of_movedTables_eq_nil fun _ => movedTables_of_mem_typeChanges
  have hkept : Announced (new.tables.entries.flatMap (keptSteps matching old)) :=
    .of_movedTables_eq_nil fun _ => movedTables_of_mem_keptPhase
  have henums : Announced (typeCreations old new) :=
    .of_movedTables_eq_nil fun _ => movedTables_of_mem_typeCreations
  have hcreations : Announced (tableCreations matching old new) :=
    .flatMap fun table _ => announced_tableCreation table
  have hdrops : Announced (tableDrops matching old new) :=
    .flatMap fun table _ => announced_tableDrop table
  exact ((((htypes.append announced_renameSteps).append hkept).append henums).append
    hcreations).append hdrops

end SchemaEvolution
