import SchemaEvolution.Proofs.Plan.Phases

/-! # The order of steps
Each kind of step belongs to one **phase** of a plan, and a plan goes through its phases in order.
What must be there before something else is done is therefore settled by comparing phases: a new
enumeration is declared before the tables that come, but behind the changes of the tables that
stay, which may need it already. -/

namespace SchemaEvolution

/-! ## Phases in order -/

/-- The number of the **phase** that a kind of step belongs to: changes of types, renames, changes
of columns, new types, new tables, dropped tables. -/
def Step.phase : Step → Nat
  | .error _ => 1
  | .addEnumValue _ _ => 1
  | .renameTable _ _ => 2
  | .addColumn _ _ => 3
  | .dropColumn _ _ => 3
  | .alterType _ _ _ _ => 3
  | .setDefault _ _ _ => 3
  | .dropDefault _ _ => 3
  | .setNotNull _ _ => 3
  | .dropNotNull _ _ => 3
  | .addPrimaryKey _ _ => 3
  | .dropPrimaryKey _ => 3
  | .createEnum _ _ => 4
  | .createTable _ _ => 5
  | .note _ => 5
  | .copyData _ _ _ => 5
  | .caution _ => 6
  | .dropTable _ => 6

/-- A step that changes the columns of a table belongs to the third phase. -/
theorem Step.ChangesTable.phase_eq {table : String} {old new : List Column} {step : Step}
    (h : step.ChangesTable table old new) : step.phase = 3 := by
  cases h with
  | added => rfl
  | altered column former step hmem hformer h => cases h <;> rfl
  | dropped => rfl

/-- Steps **in order** up to a phase: none of a later phase, and none before one of an earlier
phase. -/
structure InOrder (last : Nat) (steps : List Step) : Prop where
  /-- A step is of no earlier phase than the steps before it. -/
  sorted : steps.Pairwise fun first second => first.phase ≤ second.phase
  /-- No step is of a later phase. -/
  bounded : ∀ step ∈ steps, step.phase ≤ last

namespace InOrder

variable {last : Nat} {first second steps : List Step}

/-- Steps of one phase are in order. -/
theorem of_phase (h : ∀ step ∈ steps, step.phase = last) : InOrder last steps where
  sorted := List.pairwise_of_forall_mem_list fun a ha b hb =>
    Nat.le_of_eq ((h a ha).trans (h b hb).symm)
  bounded step hstep := Nat.le_of_eq (h step hstep)

/-- The steps of the next phase are put behind those of the phases before. -/
theorem append (hfirst : InOrder last first) (hsecond : ∀ step ∈ second, step.phase = last + 1) :
    InOrder (last + 1) (first ++ second) where
  sorted := by
    refine List.pairwise_append.mpr ⟨hfirst.sorted, (of_phase hsecond).sorted, ?_⟩
    intro a ha b hb
    rw [hsecond b hb]
    exact Nat.le_succ_of_le (hfirst.bounded a ha)
  bounded step hstep := by
    rcases List.mem_append.mp hstep with hmem | hmem
    · exact Nat.le_succ_of_le (hfirst.bounded step hmem)
    · exact Nat.le_of_eq (hsecond step hmem)

/-- A step of an earlier phase stands before a step of a later one. -/
theorem lt_of_phase_lt (h : InOrder last steps) {i j : Nat} {before after : Step}
    (hi : steps[i]? = some before) (hj : steps[j]? = some after)
    (hphase : before.phase < after.phase) : i < j := by
  by_contra hle
  obtain ⟨hilt, rfl⟩ := List.getElem?_eq_some_iff.mp hi
  obtain ⟨hjlt, rfl⟩ := List.getElem?_eq_some_iff.mp hj
  rcases Nat.lt_or_eq_of_le (Nat.not_lt.mp hle) with hlt | heq
  · exact absurd (List.pairwise_iff_getElem.mp h.sorted j i hjlt hilt hlt) (Nat.not_le.mpr hphase)
  · subst heq
    exact absurd hphase (Nat.lt_irrefl _)

/-- What belongs to a later phase than a step comes behind it. -/
theorem mem_later_of_phase_lt {earlier later : List Step} {step other : Step}
    (h : InOrder last (earlier ++ step :: later)) (hmem : other ∈ earlier ++ step :: later)
    (hphase : step.phase < other.phase) : other ∈ later := by
  rcases List.mem_append.mp hmem with hearlier | hrest
  · have hle := (List.pairwise_append.mp h.sorted).2.2 other hearlier step List.mem_cons_self
    exact absurd hphase (Nat.not_lt.mpr hle)
  · rcases List.mem_cons.mp hrest with rfl | hlater
    · exact absurd hphase (Nat.lt_irrefl _)
    · exact hlater

end InOrder

/-! ## The phases of a plan -/

variable {matching : Matching} {old new : Schema}

/-- Changes of types come first. -/
theorem phase_of_mem_typeChanges {types : List (String × TypeDefinition)} {step : Step}
    (h : step ∈ typeChanges old.types types) : step.phase = 1 := by
  rcases shape_of_mem_typeChanges h with ⟨text, rfl⟩ | ⟨name, value, rfl⟩ <;> rfl

/-- Renames come second. -/
theorem phase_of_mem_renameSteps {step : Step} (h : step ∈ renameSteps matching) :
    step.phase = 2 := by
  obtain ⟨pair, -, rfl⟩ := List.mem_map.mp h
  rfl

/-- Changes within tables that stay come third. -/
theorem phase_of_mem_keptPhase {tables : List NamedTable} {step : Step}
    (h : step ∈ tables.flatMap (keptSteps matching old)) : step.phase = 3 := by
  obtain ⟨table, -, hstep⟩ := List.mem_flatMap.mp h
  obtain ⟨former, -, hchanges⟩ := changesTable_of_mem_keptSteps hstep
  exact hchanges.phase_eq

/-- Creations of types come fourth. -/
theorem phase_of_mem_typeCreations {step : Step} (h : step ∈ typeCreations old new) :
    step.phase = 4 := by
  obtain ⟨name, values, rfl⟩ := shape_of_mem_typeCreations h
  rfl

/-- What creates a table comes fifth. -/
theorem phase_of_mem_tableCreation {table : NamedTable} {step : Step}
    (h : step ∈ tableCreation matching old table) : step.phase = 5 := by
  rcases shape_of_mem_tableCreation h with rfl | ⟨text, rfl⟩ | ⟨source, former, -, -, rfl⟩ <;> rfl

/-- Creations of tables come fifth. -/
theorem phase_of_mem_tableCreations {step : Step} (h : step ∈ tableCreations matching old new) :
    step.phase = 5 := by
  obtain ⟨table, -, hcreation⟩ := List.mem_flatMap.mp h
  exact phase_of_mem_tableCreation hcreation

/-- Drops of tables come last. -/
theorem phase_of_mem_tableDrops {step : Step} (h : step ∈ tableDrops matching old new) :
    step.phase = 6 := by
  obtain ⟨table, -, hdrop⟩ := List.mem_flatMap.mp h
  rcases shape_of_mem_tableDrop hdrop with ⟨text, rfl⟩ | rfl <;> rfl

/-- **A plan goes through its phases in order.** -/
theorem inOrder_planSteps (matching : Matching) (old new : Schema) :
    InOrder 6 (planSteps matching old new) := by
  have htypes : InOrder 1 (typeChanges old.types new.types.entries) :=
    .of_phase fun step => phase_of_mem_typeChanges
  exact ((((htypes.append fun step => phase_of_mem_renameSteps).append
    fun step => phase_of_mem_keptPhase).append
    fun step => phase_of_mem_typeCreations).append
    fun step => phase_of_mem_tableCreations).append fun step => phase_of_mem_tableDrops

/-- A step of the fifth phase belongs to the creation of a table of the new schema. -/
theorem exists_of_phase_eq_five {step : Step} (h : step ∈ planSteps matching old new)
    (hphase : step.phase = 5) :
    ∃ table ∈ new.tables.entries, step ∈ tableCreation matching old table := by
  -- in every other phase the step would have another number
  have hother : ∀ {n : Nat}, step.phase = n → n = 5 := fun hn => hn.symm.trans hphase
  rcases mem_planSteps_iff.mp h with htypes | ⟨pair, -, rfl⟩ | ⟨table, htable, hchanges⟩ | henums |
    ⟨table, htable, -, hcreation⟩ | ⟨table, -, -, hdrop⟩
  · cases hother (phase_of_mem_typeChanges htypes)
  · cases hphase
  · cases hother (phase_of_mem_keptPhase (List.mem_flatMap.mpr ⟨table, htable, hchanges⟩))
  · cases hother (phase_of_mem_typeCreations henums)
  · exact ⟨table, htable, hcreation⟩
  · rcases shape_of_mem_tableDrop hdrop with ⟨text, rfl⟩ | rfl <;> cases hphase

/-- A plan creates only tables that the new schema declares. -/
theorem mem_of_createTable_mem_planSteps {name : String} {columns : List Column}
    (h : .createTable name columns ∈ planSteps matching old new) :
    (name, columns) ∈ new.tables.entries := by
  obtain ⟨table, htable, hcreation⟩ := exists_of_phase_eq_five h rfl
  rcases shape_of_mem_tableCreation hcreation with he | ⟨_, he⟩ | ⟨_, _, -, -, he⟩
  · obtain ⟨rfl, rfl⟩ := Step.createTable.inj he
    exact htable
  · cases he
  · cases he

/-! ## Declaring types and using them -/

/-- The steps that **give the type** of a name to a column. -/
inductive Step.GivesType (type : String) : Step → Prop where
  /-- A table is created with such a column. -/
  | created (table : String) (columns : List Column) (column : Column) (hmem : column ∈ columns)
    (htype : column.baseType = type) : GivesType type (.createTable table columns)
  /-- Such a column is added to a table. -/
  | added (table : String) (column : Column) (htype : column.baseType = type) :
    GivesType type (.addColumn table column)
  /-- A column of a table gets the type. -/
  | altered (table column : String) (conversion : Option String) :
    GivesType type (.alterType table column type conversion)

/-- Each enumeration that a list of steps declares is **declared before** any step gives it to a
column. -/
def DeclaredBeforeUse (steps : List Step) : Prop :=
  ∀ (i j : Nat) (name : String) (values : List String) (step : Step),
    steps[i]? = some (.createEnum name values) → steps[j]? = some step → step.GivesType name → i < j

namespace Sample

/-- A schema with a text where its successor has an enumeration. -/
def untyped : Schema where
  types := .empty
  tables := .ofList [("post", [plain "id" "INT", plain "state" "TEXT"])]

/-- The schema that uses an enumeration in a table that stays and in one that comes. -/
def typed : Schema where
  types := .ofList [("mood", .enumeration ["ok"])]
  tables := .ofList
    [("post", [plain "id" "INT", plain "state" "mood", plain "extra" "mood"]),
    ("tag", [plain "label" "mood"])]

/-- The plan from the one to the other. -/
def typedSteps : List Step :=
  [.addColumn "post" (plain "extra" "mood"),
    .alterType "post" "state" "mood" none,
    .createEnum "mood" ["ok"],
    .createTable "tag" [plain "label" "mood"]]

/-- The plan between the two sample schemas. -/
theorem plan_untyped_typed : plan .standard untyped typed = .ok typedSteps := by decide +kernel

end Sample

/-- A table that stays may use an enumeration **before it is declared**: the sample adds a column of
the type, and changes one to it, before the enumeration is there. -/
theorem sample_used_before_declared :
    plan .standard Sample.untyped Sample.typed = .ok Sample.typedSteps ∧
      ¬DeclaredBeforeUse Sample.typedSteps := by
  refine ⟨Sample.plan_untyped_typed, fun h => ?_⟩
  have hadded : Step.GivesType "mood" (.addColumn "post" (Sample.plain "extra" "mood")) :=
    .added "post" _ (by decide +kernel)
  exact absurd (h 2 0 "mood" ["ok"] _ rfl rfl hadded) (by decide)

/-- **An enumeration is declared before exactly those uses that create a table.** A step of a plan
that gives a new enumeration to a column stands behind its declaration when it creates a table, and
before it when it adds a column to a table that stays or changes one. -/
theorem declared_before_iff_creates (options : MatchOptions) (old new : Schema) (steps : List Step)
    (hplan : plan options old new = .ok steps) (i j : Nat) (name : String) (values : List String)
    (step : Step) (hdeclared : steps[i]? = some (.createEnum name values))
    (hused : steps[j]? = some step) (hgives : step.GivesType name) :
    i < j ↔ ∃ table columns, step = .createTable table columns := by
  have horder := inOrder_planSteps (Matching.ofSchemas options old new) old new
  rw [← eq_planSteps_of_plan hplan] at horder
  have hchange : 3 < (Step.createEnum name values).phase := Nat.lt_succ_self 3
  have hcreate : (Step.createEnum name values).phase < 5 := Nat.lt_succ_self 4
  constructor
  · intro hlt
    -- columns are added and changed in the third phase, before any type is declared
    cases hgives with
    | created table columns => exact ⟨table, columns, rfl⟩
    | added table column htype =>
      exact absurd (horder.lt_of_phase_lt hused hdeclared hchange) (Nat.lt_asymm hlt)
    | altered table column conversion =>
      exact absurd (horder.lt_of_phase_lt hused hdeclared hchange) (Nat.lt_asymm hlt)
  · rintro ⟨table, columns, rfl⟩
    exact horder.lt_of_phase_lt hdeclared hused hcreate

/-- The sample declares its enumeration behind the added column and before the new table. -/
theorem sample_declared_before_created :
    plan .standard Sample.untyped Sample.typed = .ok Sample.typedSteps ∧
      (2 < 3 ↔ ∃ table columns,
        Step.createTable "tag" [Sample.plain "label" "mood"] = .createTable table columns) ∧
      (2 < 0 ↔ ∃ table columns,
        Step.addColumn "post" (Sample.plain "extra" "mood") = .createTable table columns) :=
  ⟨Sample.plan_untyped_typed,
    declared_before_iff_creates .standard Sample.untyped Sample.typed Sample.typedSteps
      Sample.plan_untyped_typed 2 3 "mood" ["ok"] _ rfl rfl
      (.created "tag" _ _ List.mem_cons_self (by decide +kernel)),
    declared_before_iff_creates .standard Sample.untyped Sample.typed Sample.typedSteps
      Sample.plan_untyped_typed 2 0 "mood" ["ok"] _ rfl rfl
      (.added "post" _ (by decide +kernel))⟩

end SchemaEvolution
