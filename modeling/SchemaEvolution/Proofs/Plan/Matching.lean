import SchemaEvolution.Plan.Basic
import SchemaEvolution.Proofs.Catalog

/-! # One-to-one matchings
Whatever the thresholds and similarities are, a matching pairs each old table with at most one new
table and each new table with at most one old one. Only tables without a partner of the same name
take part, and who is renamed replaces nobody. `Matching.Fits` says this, and `ofSchemas_fits` shows
it of the rounds that are played. No fact about floating-point numbers is used. -/

namespace SchemaEvolution

namespace Round

/-! ## The choice of a round -/

/-- The best of a list of scores is one of them, or the leader from before. -/
theorem foldl_better_mem {threshold : Float} {scores : List (String × Float)}
    {leader : Option (String × Float)} {winner : String × Float}
    (h : scores.foldl (better threshold) leader = some winner) :
    leader = some winner ∨ winner ∈ scores := by
  induction scores generalizing leader with
  | nil => exact .inl h
  | cons next rest ih =>
    rw [List.foldl_cons] at h
    -- the winner leads after the first score or is found in the rest
    rcases ih h with hleader | hrest
    · have hcases : better threshold leader next = leader ∨
          better threshold leader next = some next := by
        unfold better
        split
        · exact .inl rfl
        · split
          · split
            · exact .inl rfl
            · exact .inr rfl
          · exact .inr rfl
      rcases hcases with hsame | hnext
      · exact .inl (hsame ▸ hleader)
      · rw [hnext, Option.some.injEq] at hleader
        exact .inr (hleader ▸ List.mem_cons_self)
    · exact .inr (List.mem_cons_of_mem next hrest)

/-- Who is chosen was among the scores. -/
theorem mem_of_best {threshold : Float} {scores : List (String × Float)} {target : String}
    (h : best threshold scores = some target) : target ∈ scores.map Prod.fst := by
  obtain ⟨winner, hwinner, rfl⟩ := Option.map_eq_some_iff.mp h
  rcases foldl_better_mem hwinner with hnone | hmem
  · cases hnone
  · exact List.mem_map.mpr ⟨winner, hmem, rfl⟩

variable {options : MatchOptions} {threshold : Float}

/-- A round is about the table that plays it. -/
@[simp] theorem play_source (table : NamedTable) (candidates : List NamedTable) :
    (play options threshold table candidates).source = table.1 := rfl

/-- A round chooses one of its candidates. -/
theorem mem_of_choice {table : NamedTable} {candidates : List NamedTable} {target : String}
    (h : (play options threshold table candidates).choice = some target) :
    target ∈ candidates.map Prod.fst := by
  have hscores := mem_of_best h
  rwa [List.map_map] at hscores

/-- Who is left after a round was a candidate and was not chosen. -/
theorem mem_remaining_iff (round : Round) (candidates : List NamedTable) (candidate : NamedTable) :
    candidate ∈ round.remaining candidates ↔
      candidate ∈ candidates ∧ round.choice ≠ some candidate.1 := by
  simp [remaining]

/-! ## The pairs of all rounds -/

/-- No rounds make no pairs. -/
@[simp] theorem pairs_nil : pairs [] = [] := rfl

/-- The first round contributes a pair when somebody is chosen in it. -/
theorem pairs_cons (round : Round) (rounds : List Round) :
    pairs (round :: rounds) =
      (round.choice.map fun target => (round.source, target)).toList ++ pairs rounds := by
  unfold pairs
  cases h : round.choice <;> simp [h]

/-- Each old table is the source of at most one pair, in the order of the old tables. -/
theorem pairs_sources_sublist (tables candidates : List NamedTable) :
    ((pairs (playAll options threshold tables candidates)).map Prod.fst).Sublist
      (tables.map Prod.fst) := by
  induction tables generalizing candidates with
  | nil => simp
  | cons table tables ih =>
    rw [playAll_cons, pairs_cons, List.map_append, List.map_cons]
    cases (play options threshold table candidates).choice with
    | none => exact (ih _).cons _
    | some target => exact (ih _).cons_cons _

/-- The targets of the pairs are candidates. -/
theorem pairs_targets_mem {tables candidates : List NamedTable} {pair : String × String}
    (h : pair ∈ pairs (playAll options threshold tables candidates)) :
    pair.2 ∈ candidates.map Prod.fst := by
  induction tables generalizing candidates with
  | nil => cases h
  | cons table tables ih =>
    rw [playAll_cons, pairs_cons, List.mem_append] at h
    rcases h with hfirst | hrest
    · rw [Option.mem_toList, Option.map_eq_some_iff] at hfirst
      obtain ⟨target, hchoice, rfl⟩ := hfirst
      exact mem_of_choice hchoice
    · obtain ⟨candidate, hmem, hname⟩ := List.mem_map.mp (ih hrest)
      exact List.mem_map.mpr ⟨candidate, ((mem_remaining_iff _ _ _).mp hmem).1, hname⟩

/-- **No target is claimed twice**: who is chosen takes part in no later round. -/
theorem pairs_targets_nodup (tables candidates : List NamedTable) :
    ((pairs (playAll options threshold tables candidates)).map Prod.snd).Nodup := by
  induction tables generalizing candidates with
  | nil => simp
  | cons table tables ih =>
    rw [playAll_cons, pairs_cons, List.map_append]
    cases hchoice : (play options threshold table candidates).choice with
    | none => exact ih _
    | some target =>
      refine List.nodup_cons.mpr ⟨?_, ih _⟩
      -- a later pair with this target would be made from a candidate that was left over
      intro hlater
      obtain ⟨pair, hpair, hname⟩ := List.mem_map.mp hlater
      obtain ⟨candidate, hleft, hcandidate⟩ := List.mem_map.mp (pairs_targets_mem hpair)
      refine ((mem_remaining_iff _ _ _).mp hleft).2 ?_
      rw [hchoice, hcandidate, hname]

end Round

/-! ## Matchings -/

namespace Matching

/-- The names of the old tables that are renamed. -/
def renamedSources (matching : Matching) : List String := matching.renames.map Prod.fst

/-- The new names of the tables that are renamed. -/
def renamedTargets (matching : Matching) : List String := matching.renames.map Prod.snd

/-- A matching **fits** two schemas when it pairs tables one to one that are in one schema only, and
its replacements leave the renamed tables alone. -/
structure Fits (matching : Matching) (old new : Schema) : Prop where
  /-- Who is renamed was in the old schema only. -/
  source_lost : ∀ source ∈ matching.renamedSources,
    source ∈ old.tables.names ∧ source ∉ new.tables.names
  /-- The new name of a renamed table is in the new schema only. -/
  target_gained : ∀ target ∈ matching.renamedTargets,
    target ∈ new.tables.names ∧ target ∉ old.tables.names
  /-- No table is renamed twice. -/
  sources_nodup : matching.renamedSources.Nodup
  /-- No two tables are renamed to the same name. -/
  targets_nodup : matching.renamedTargets.Nodup
  /-- Who is replaced was in the old schema only and is not renamed. -/
  replaced_lost : ∀ pair ∈ matching.replacements,
    pair.1 ∈ old.tables.names ∧ pair.1 ∉ new.tables.names ∧ pair.1 ∉ matching.renamedSources
  /-- Who replaces a table is in the new schema only and is not a renamed table. -/
  replacing_gained : ∀ pair ∈ matching.replacements,
    pair.2 ∈ new.tables.names ∧ pair.2 ∉ old.tables.names ∧ pair.2 ∉ matching.renamedTargets

/-- The tables that another schema lacks. -/
theorem mem_missingFrom_iff (schema other : Schema) (table : NamedTable) :
    table ∈ missingFrom schema other ↔
      table ∈ schema.tables.entries ∧ table.1 ∉ other.tables.names := by
  rw [missingFrom, List.mem_filter, Bool.not_eq_true', Catalog.contains_eq_false_iff]

/-- A table that another schema lacks is found under its name. -/
theorem get?_of_mem_missingFrom {schema other : Schema} {table : NamedTable}
    (h : table ∈ missingFrom schema other) : schema.tables.get? table.1 = some table.2 :=
  schema.tables.get?_of_mem ((mem_missingFrom_iff schema other table).mp h).1

/-- The tables that another schema lacks, by name. -/
theorem mem_map_missingFrom_iff (schema other : Schema) (table : String) :
    table ∈ (missingFrom schema other).map Prod.fst ↔
      table ∈ schema.tables.names ∧ table ∉ other.tables.names := by
  simp only [List.mem_map, mem_missingFrom_iff, Catalog.names]
  constructor
  · rintro ⟨entry, ⟨hentry, hother⟩, rfl⟩
    exact ⟨⟨entry, hentry, rfl⟩, hother⟩
  · rintro ⟨⟨entry, hentry, rfl⟩, hother⟩
    exact ⟨entry, ⟨hentry, hother⟩, rfl⟩

/-- The tables that another schema lacks have different names. -/
theorem nodup_map_missingFrom (schema other : Schema) :
    ((missingFrom schema other).map Prod.fst).Nodup :=
  schema.tables.nodup_names.sublist (List.filter_sublist.map Prod.fst)

/-- Leaving out the tables that occur in a list of names. -/
private theorem mem_map_filter_any {β : Type} (tables : List NamedTable) (pairs : List β)
    (key : β → String) (table : String) :
    table ∈ (tables.filter fun entry => !pairs.any fun pair => key pair == entry.1).map Prod.fst ↔
      table ∈ tables.map Prod.fst ∧ table ∉ pairs.map key := by
  simp only [List.mem_map, List.mem_filter, Bool.not_eq_true', List.any_eq_false, beq_iff_eq]
  constructor
  · rintro ⟨entry, ⟨hentry, hfree⟩, rfl⟩
    exact ⟨⟨entry, hentry, rfl⟩, fun ⟨pair, hpair, hkey⟩ => hfree pair hpair hkey⟩
  · rintro ⟨⟨entry, hentry, rfl⟩, hfree⟩
    exact ⟨entry, ⟨hentry, fun pair hpair hkey => hfree ⟨pair, hpair, hkey⟩⟩, rfl⟩

/-- **The rounds that are played give a matching that fits.** -/
theorem ofSchemas_fits (options : MatchOptions) (old new : Schema) :
    (ofSchemas options old new).Fits old new where
  source_lost source hsource := by
    rw [← mem_map_missingFrom_iff]
    exact (Round.pairs_sources_sublist _ _).subset hsource
  target_gained target htarget := by
    obtain ⟨pair, hpair, rfl⟩ := List.mem_map.mp htarget
    rw [← mem_map_missingFrom_iff]
    exact Round.pairs_targets_mem hpair
  sources_nodup := (nodup_map_missingFrom old new).sublist (Round.pairs_sources_sublist _ _)
  targets_nodup := Round.pairs_targets_nodup _ _
  replaced_lost pair hpair := by
    have hsource := (Round.pairs_sources_sublist _ _).subset (List.mem_map_of_mem hpair)
    rw [mem_map_filter_any _ _ Prod.fst, mem_map_missingFrom_iff] at hsource
    exact ⟨hsource.1.1, hsource.1.2, hsource.2⟩
  replacing_gained pair hpair := by
    have htarget := Round.pairs_targets_mem hpair
    rw [mem_map_filter_any _ _ Prod.snd, mem_map_missingFrom_iff] at htarget
    exact ⟨htarget.1.1, htarget.1.2, htarget.2⟩

/-! ## Looking up partners -/

variable {matching : Matching} {old new : Schema}

/-- No rename leads to a name exactly when it is no new name of a renamed table. -/
theorem renamedFrom?_eq_none_iff (target : String) :
    matching.renamedFrom? target = none ↔ target ∉ matching.renamedTargets := by
  simp only [renamedFrom?, Option.map_eq_none_iff, List.find?_eq_none, renamedTargets, List.mem_map,
    beq_iff_eq, not_exists, not_and]

/-- What is looked up is a pair of the matching. -/
theorem mem_renames_of_renamedFrom? {source target : String}
    (h : matching.renamedFrom? target = some source) : (source, target) ∈ matching.renames := by
  obtain ⟨pair, hfind, rfl⟩ := Option.map_eq_some_iff.mp h
  have htarget : pair.2 = target := by simpa using List.find?_some hfind
  exact htarget ▸ List.mem_of_find?_eq_some hfind

/-- A pair is found under its new name when no other pair has that name. -/
theorem find?_of_nodup_targets {pairs : List (String × String)}
    (hnodup : (pairs.map Prod.snd).Nodup) {pair : String × String} (h : pair ∈ pairs) :
    pairs.find? (fun other => other.2 == pair.2) = some pair := by
  cases hfind : pairs.find? fun other => other.2 == pair.2 with
  | none => exact absurd (beq_self_eq_true pair.2) (List.find?_eq_none.mp hfind pair h)
  | some found =>
    -- the search stops at the first pair with this new name, and there is no other
    have htarget : found.2 = pair.2 := by simpa using List.find?_some hfind
    have hfound := List.mem_of_find?_eq_some hfind
    exact congrArg some (List.inj_on_of_nodup_map hnodup hfound h htarget)

/-- A pair of the matching is looked up under its new name. -/
theorem Fits.renamedFrom?_of_mem (hfits : matching.Fits old new) {pair : String × String}
    (h : pair ∈ matching.renames) : matching.renamedFrom? pair.2 = some pair.1 := by
  rw [renamedFrom?, find?_of_nodup_targets hfits.targets_nodup h, Option.map_some]

/-- Who replaces a table by the lookup is a pair of the matching. -/
theorem mem_replacements_of_replacedBy? {source target : String}
    (h : matching.replacedBy? target = some source) : (source, target) ∈ matching.replacements := by
  obtain ⟨pair, hfind, rfl⟩ := Option.map_eq_some_iff.mp h
  have htarget : pair.2 = target := by simpa using List.find?_some hfind
  exact htarget ▸ List.mem_of_find?_eq_some hfind

/-- A name of the new schema is no old name of a renamed table. -/
theorem Fits.not_renamed_of_mem (hfits : matching.Fits old new) {table : String}
    (h : table ∈ new.tables.names) : table ∉ matching.renamedSources :=
  fun hsource => (hfits.source_lost table hsource).2 h

/-- An old table is kept when the new schema has its name or a rename starts at it. -/
theorem isKept_iff (table : String) :
    isKept matching new table = true ↔
      table ∈ new.tables.names ∨ table ∈ matching.renamedSources := by
  simp [isKept, Catalog.contains_iff, renamedSources, List.any_eq_true]

/-- The old tables that are dropped are in neither the new schema nor a rename. -/
theorem mem_dropped_iff (table : String) :
    table ∈ old.tables.names.filter (fun table => !isKept matching new table) ↔
      table ∈ old.tables.names ∧ table ∉ new.tables.names ∧ table ∉ matching.renamedSources := by
  rw [List.mem_filter, Bool.not_eq_true', ← Bool.not_eq_true, isKept_iff, not_or]

/-- A name of the old schema is no new name, so its table was there under that name. -/
theorem Fits.formerColumns?_of_mem (hfits : matching.Fits old new) {table : String}
    (h : table ∈ old.tables.names) : formerColumns? matching old table = old.tables.get? table := by
  have hfrom : matching.renamedFrom? table = none :=
    (renamedFrom?_eq_none_iff table).mpr fun ht => (hfits.target_gained table ht).2 h
  rw [formerColumns?, hfrom, Option.getD_none]

/-- A renamed table had its columns under its old name. -/
theorem Fits.formerColumns?_of_mem_renames (hfits : matching.Fits old new) {pair : String × String}
    (h : pair ∈ matching.renames) :
    formerColumns? matching old pair.2 = old.tables.get? pair.1 := by
  rw [formerColumns?, hfits.renamedFrom?_of_mem h, Option.getD_some]

/-- A table has no former columns when it is neither an old table nor a renamed one. -/
theorem Fits.formerColumns?_eq_none_iff (hfits : matching.Fits old new) (table : String) :
    formerColumns? matching old table = none ↔
      table ∉ old.tables.names ∧ table ∉ matching.renamedTargets := by
  cases hfrom : matching.renamedFrom? table with
  | none =>
    have hfree := (renamedFrom?_eq_none_iff table).mp hfrom
    rw [formerColumns?, hfrom, Option.getD_none, Catalog.get?_eq_none_iff]
    exact ⟨fun h => ⟨h, hfree⟩, fun h => h.1⟩
  | some source =>
    -- a renamed table is an old one, so its columns are found
    have hpair := mem_renames_of_renamedFrom? hfrom
    have hstored := (hfits.source_lost source (List.mem_map_of_mem hpair)).1
    have htarget : table ∈ matching.renamedTargets := List.mem_map_of_mem hpair
    rw [formerColumns?, hfrom, Option.getD_some, Catalog.get?_eq_none_iff]
    exact ⟨fun h => absurd hstored h, fun h => absurd htarget h.2⟩

end Matching

end SchemaEvolution
