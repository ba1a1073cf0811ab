import SchemaEvolution.Proofs.Double.Quotient
import SchemaEvolution.Proofs.Plan.Matching
import Mathlib.Data.List.Induction

/-! # The best candidate of a round
Going through its candidates, a round keeps the first one of highest similarity among those that
reach the threshold: the **leader**. At the end the leader is chosen, and where there is none, every
candidate misses the threshold. Each round is played among the candidates that no earlier round has
taken. -/

namespace SchemaEvolution

open Double

namespace Round

variable {options : MatchOptions} {threshold : Float}

/-! ## The leader -/

/-- The **leader** after the scores that were seen so far. -/
inductive Leads (threshold : Float) : List (String × Float) → Option (String × Float) → Prop where
  /-- Nobody leads while every score misses the threshold. -/
  | nobody {seen : List (String × Float)} (hmissed : ∀ score ∈ seen, score.2 < threshold) :
      Leads threshold seen none
  /-- The leader reaches the threshold, beats all scores before it and equals those after it. -/
  | somebody {front back : List (String × Float)} {leader : String × Float}
      (hreached : ¬leader.2 < threshold) (hfront : ∀ score ∈ front, score.2 < leader.2)
      (hback : ∀ score ∈ back, score.2 ≤ leader.2) :
      Leads threshold (front ++ leader :: back) (some leader)

namespace Leads

variable {seen : List (String × Float)} {leader : Option (String × Float)}
  {first next : String × Float}

/-- A leader is one of the scores. -/
theorem mem (h : Leads threshold seen (some first)) : first ∈ seen := by
  cases h
  simp

/-- No score exceeds that of the leader. -/
theorem le (h : Leads threshold seen (some first)) (hseen : ∀ score ∈ seen, IsNumber score.2) :
    ∀ score ∈ seen, score.2 ≤ first.2 := by
  have hfirst := hseen first h.mem
  cases h with
  | somebody hreached hfront hback =>
    simp only [List.forall_mem_append, List.forall_mem_cons] at hseen ⊢
    exact ⟨fun score hscore => le_of_lt (hseen.1 score hscore) hfirst (hfront score hscore),
      hfirst.le_refl, hback⟩

/-- The leader stays where the next score does not exceed it. -/
theorem keep (h : Leads threshold seen (some first)) (hnext : next.2 ≤ first.2) :
    Leads threshold (seen ++ [next]) (some first) := by
  cases h with
  | somebody hreached hfront hback =>
    rw [List.append_assoc, List.cons_append]
    refine .somebody hreached hfront ?_
    rw [List.forall_mem_append, List.forall_mem_singleton]
    exact ⟨hback, hnext⟩

/-- A score that reaches the threshold and exceeds all others leads. -/
theorem replace (hreached : ¬next.2 < threshold) (hall : ∀ score ∈ seen, score.2 < next.2) :
    Leads threshold (seen ++ [next]) (some next) :=
  .somebody hreached hall fun _ hmem => by cases hmem

/-- **The next score keeps the leader or replaces it.** -/
theorem better (h : Leads threshold seen leader) (hseen : ∀ score ∈ seen, IsNumber score.2)
    (hnext : IsNumber next.2) :
    Leads threshold (seen ++ [next]) (Round.better threshold leader next) := by
  unfold Round.better
  cases leader with
  | none =>
    -- nobody led: the next score leads if it reaches the threshold
    cases h with
    | nobody hmissed =>
      by_cases hlow : next.2 < threshold
      · rw [if_pos hlow]
        refine .nobody ?_
        rw [List.forall_mem_append, List.forall_mem_singleton]
        exact ⟨hmissed, hlow⟩
      · rw [if_neg hlow]
        refine replace hlow fun score hscore => ?_
        exact lt_of_lt_of_not_lt (hseen score hscore) hnext (hmissed score hscore) hlow
  | some first =>
    have hfirst := hseen first h.mem
    by_cases hlow : next.2 < threshold
    · -- the leader reaches the threshold, so a score that misses it is smaller
      have hreached : ¬first.2 < threshold := by
        cases h with
        | somebody hreached => exact hreached
      rw [if_pos hlow]
      exact h.keep (le_of_lt hnext hfirst (lt_of_lt_of_not_lt hnext hfirst hlow hreached))
    · rw [if_neg hlow]
      dsimp only
      by_cases hkept : first.2 ≥ next.2
      · rw [if_pos hkept]
        exact h.keep hkept
      · have hless : first.2 < next.2 := by
          by_contra hnot
          exact hkept ((not_lt_iff_le hfirst hnext).mp hnot)
        rw [if_neg hkept]
        refine replace hlow fun score hscore => ?_
        exact lt_of_le_of_lt (hseen score hscore) hfirst hnext (h.le hseen score hscore) hless

end Leads

/-- After all scores, who is left leads. -/
theorem leads_foldl {scores : List (String × Float)}
    (hnumbers : ∀ score ∈ scores, IsNumber score.2) :
    Leads threshold scores (scores.foldl (Round.better threshold) none) := by
  induction scores using List.reverseRecOn with
  | nil => exact .nobody fun _ hmem => by cases hmem
  | append_singleton seen next ih =>
    rw [List.foldl_append]
    have hseen : ∀ score ∈ seen, IsNumber score.2 := fun score hscore =>
      hnumbers score (List.mem_append_left _ hscore)
    exact (ih hseen).better hseen (hnumbers next (by simp))

/-- The scores of a round are numbers. -/
theorem isNumber_of_mem_scores (table : NamedTable) (candidates : List NamedTable) :
    ∀ score ∈ (play options threshold table candidates).scores, IsNumber score.2 := by
  intro score hscore
  obtain ⟨candidate, -, rfl⟩ := List.mem_map.mp hscore
  exact isNumber_similarity options table.2 candidate.2

/-- A round chooses who leads after its last candidate. -/
theorem exists_leads_play (options : MatchOptions) (threshold : Float) (table : NamedTable)
    (candidates : List NamedTable) :
    ∃ leader, Leads threshold (play options threshold table candidates).scores leader ∧
      (play options threshold table candidates).choice = leader.map Prod.fst :=
  ⟨_, leads_foldl (isNumber_of_mem_scores table candidates), rfl⟩

/-! ## The choice of a round -/

/-- A candidate is the **first best** for a list of columns when it reaches the threshold, no
candidate is more similar, and every candidate before it is less similar. -/
structure FirstBest (options : MatchOptions) (threshold : Float) (former : List Column)
    (candidates : List NamedTable) (choice : NamedTable) : Prop where
  /-- The candidate reaches the threshold. -/
  reached : ¬similarity options former choice.2 < threshold
  /-- No candidate is more similar. -/
  best : ∀ candidate ∈ candidates,
    similarity options former candidate.2 ≤ similarity options former choice.2
  /-- It is a candidate, and those before it are less similar. -/
  first : ∃ front back, candidates = front ++ choice :: back ∧ ∀ candidate ∈ front,
    similarity options former candidate.2 < similarity options former choice.2

/-- **Who is chosen is the first best** of the candidates. -/
theorem firstBest_of_choice {source target : String} {former : List Column}
    {candidates : List NamedTable}
    (h : (play options threshold (source, former) candidates).choice = some target) :
    ∃ columns, FirstBest options threshold former candidates (target, columns) := by
  obtain ⟨leader, hleads, hchoice⟩ :=
    exists_leads_play options threshold (source, former) candidates
  rw [h] at hchoice
  obtain ⟨first, rfl, rfl⟩ := Option.map_eq_some_iff.mp hchoice.symm
  have hbest := hleads.le (isNumber_of_mem_scores (source, former) candidates)
  rw [play, List.forall_mem_map] at hbest
  generalize hscores : (play options threshold (source, former) candidates).scores = scores
    at hleads
  cases hleads with
  | somebody hreached hfront hback =>
    -- the scores before and after the leader are those of the candidates before and after it
    obtain ⟨before, rest, rfl, rfl, hrest⟩ := List.map_eq_append_iff.mp hscores
    obtain ⟨choice, after, rfl, rfl, rfl⟩ := List.map_eq_cons_iff.mp hrest
    rw [List.forall_mem_map] at hfront
    exact ⟨choice.2, hreached, hbest, before, after, rfl, hfront⟩

/-- **Where nobody is chosen, every candidate misses the threshold.** -/
theorem similarity_lt_of_choice_eq_none {source target : String} {former columns : List Column}
    {candidates : List NamedTable}
    (h : (play options threshold (source, former) candidates).choice = none)
    (hcandidate : (target, columns) ∈ candidates) :
    similarity options former columns < threshold := by
  obtain ⟨leader, hleads, hchoice⟩ :=
    exists_leads_play options threshold (source, former) candidates
  rw [h] at hchoice
  obtain rfl := Option.map_eq_none_iff.mp hchoice.symm
  generalize hscores : (play options threshold (source, former) candidates).scores = scores
    at hleads
  cases hleads with
  | nobody hmissed =>
    rw [← hscores, play, List.forall_mem_map] at hmissed
    exact hmissed (target, columns) hcandidate

/-! ## The candidates of a round -/

/-- The candidates that are **not taken**, in their order. -/
def untaken (taken : List String) (candidates : List NamedTable) : List NamedTable :=
  candidates.filter fun candidate => !taken.contains candidate.1

/-- A candidate is left unless its name is taken. -/
theorem mem_untaken_iff (taken : List String) (candidates : List NamedTable)
    (candidate : NamedTable) :
    candidate ∈ untaken taken candidates ↔ candidate ∈ candidates ∧ candidate.1 ∉ taken := by
  simp [untaken]

/-- While nobody is taken, all candidates are left. -/
theorem untaken_nil (candidates : List NamedTable) : untaken [] candidates = candidates :=
  List.filter_eq_self.mpr fun _ _ => rfl

/-- Who is chosen in a round is taken before all others. -/
theorem untaken_remaining (round : Round) (taken : List String) (candidates : List NamedTable) :
    untaken taken (round.remaining candidates) =
      untaken (round.choice.toList ++ taken) candidates := by
  unfold untaken remaining
  rw [List.filter_filter]
  refine List.filter_congr fun candidate _ => ?_
  cases round.choice with
  | none => simp
  | some target =>
    by_cases hchosen : target = candidate.1
    · simp [hchosen]
    · simp [hchosen, Ne.symm hchosen]

/-- The pairs of two lists of rounds. -/
theorem pairs_append (first second : List Round) :
    pairs (first ++ second) = pairs first ++ pairs second :=
  List.filterMap_append

/-- The new names in a list of rounds are the choices of its rounds. -/
theorem map_snd_pairs_cons (round : Round) (rounds : List Round) :
    (pairs (round :: rounds)).map Prod.snd =
      round.choice.toList ++ (pairs rounds).map Prod.snd := by
  rw [pairs_cons, List.map_append]
  cases round.choice <;> rfl

/-- **Each table plays one round**, among the candidates that no earlier round has taken. -/
theorem exists_play_of_mem {tables : List NamedTable} (candidates : List NamedTable)
    {table : NamedTable} (htable : table ∈ tables) :
    ∃ before after, playAll options threshold tables candidates =
      before ++ play options threshold table
        (untaken ((pairs before).map Prod.snd) candidates) :: after := by
  induction tables generalizing candidates with
  | nil => cases htable
  | cons first tables ih =>
    rw [playAll_cons]
    rcases List.mem_cons.mp htable with rfl | hmem
    · exact ⟨[], _, by rw [pairs_nil, List.map_nil, untaken_nil]; rfl⟩
    · obtain ⟨before, after, hrounds⟩ :=
        ih ((play options threshold first candidates).remaining candidates) hmem
      refine ⟨play options threshold first candidates :: before, after, ?_⟩
      rw [hrounds, untaken_remaining, map_snd_pairs_cons, List.cons_append]

/-- Each round is the round of a table among the candidates that no earlier round has taken. -/
theorem exists_table_of_playAll {tables candidates : List NamedTable} {before after : List Round}
    {round : Round} (h : playAll options threshold tables candidates = before ++ round :: after) :
    ∃ table ∈ tables, round = play options threshold table
      (untaken ((pairs before).map Prod.snd) candidates) := by
  induction before generalizing tables candidates with
  | nil =>
    cases tables with
    | nil => cases h
    | cons table tables =>
      rw [playAll_cons] at h
      obtain ⟨rfl, -⟩ := List.cons.inj h
      exact ⟨table, List.mem_cons_self, by rw [pairs_nil, List.map_nil, untaken_nil]⟩
  | cons first before ih =>
    cases tables with
    | nil => cases h
    | cons table tables =>
      rw [playAll_cons, List.cons_append] at h
      obtain ⟨rfl, hrest⟩ := List.cons.inj h
      obtain ⟨other, hother, hround⟩ := ih hrest
      refine ⟨other, List.mem_cons_of_mem table hother, ?_⟩
      rw [hround, untaken_remaining, map_snd_pairs_cons]

/-- **Each pair is the choice of a table** among the candidates that no earlier pair has taken. -/
theorem exists_choice_of_pairs {tables candidates : List NamedTable}
    {earlier later : List (String × String)} {pair : String × String}
    (h : pairs (playAll options threshold tables candidates) = earlier ++ pair :: later) :
    ∃ former, (pair.1, former) ∈ tables ∧
      (play options threshold (pair.1, former)
        (untaken (earlier.map Prod.snd) candidates)).choice = some pair.2 := by
  obtain ⟨before, rest, hrounds, rfl, hrest⟩ := List.filterMap_eq_append_iff.mp h
  obtain ⟨idle, round, after, rfl, hidle, hround, -⟩ := List.filterMap_eq_cons_iff.mp hrest
  -- the rounds before this one that choose nobody contribute no pair
  have hearlier : pairs (before ++ idle) = pairs before := by
    rw [pairs_append, pairs, pairs, List.filterMap_eq_nil_iff.mpr hidle, List.append_nil]
  rw [← List.append_assoc] at hrounds
  obtain ⟨table, htable, rfl⟩ := exists_table_of_playAll hrounds
  rw [hearlier] at hround
  obtain ⟨target, hchoice, rfl⟩ := Option.map_eq_some_iff.mp hround
  exact ⟨table.2, htable, hchoice⟩

/-- The two tables of a pair are among those that were matched, and are as similar as it takes. -/
theorem exists_reached_of_mem_pairs {tables candidates : List NamedTable} {pair : String × String}
    (h : pair ∈ pairs (playAll options threshold tables candidates)) :
    ∃ former columns, (pair.1, former) ∈ tables ∧ (pair.2, columns) ∈ candidates ∧
      ¬similarity options former columns < threshold := by
  obtain ⟨earlier, later, hpairs⟩ := List.append_of_mem h
  obtain ⟨former, hformer, hchoice⟩ := exists_choice_of_pairs hpairs
  obtain ⟨columns, hbest⟩ := firstBest_of_choice hchoice
  obtain ⟨front, back, hcandidates, -⟩ := hbest.first
  have huntaken : (pair.2, columns) ∈ untaken (earlier.map Prod.snd) candidates := by
    rw [hcandidates]
    exact List.mem_append_right front List.mem_cons_self
  exact ⟨former, columns, hformer, ((mem_untaken_iff _ _ _).mp huntaken).1, hbest.reached⟩

/-- **A table without a partner is unlike every candidate that is never taken.** -/
theorem similarity_lt_of_unmatched {tables candidates : List NamedTable} {source target : String}
    {former columns : List Column} (htable : (source, former) ∈ tables)
    (hsource : source ∉ (pairs (playAll options threshold tables candidates)).map Prod.fst)
    (hcandidate : (target, columns) ∈ candidates)
    (htarget : target ∉ (pairs (playAll options threshold tables candidates)).map Prod.snd) :
    similarity options former columns < threshold := by
  obtain ⟨before, after, hrounds⟩ := exists_play_of_mem candidates htable
  rw [hrounds, pairs_append, List.map_append, List.mem_append, not_or] at hsource htarget
  have hleft := (mem_untaken_iff _ _ (target, columns)).mpr ⟨hcandidate, htarget.1⟩
  -- a choice in the round of the table would be a pair with it
  have hnone : (play options threshold (source, former)
      (untaken ((pairs before).map Prod.snd) candidates)).choice = none := by
    rw [Option.eq_none_iff_forall_not_mem]
    intro other hchoice
    apply hsource.2
    rw [pairs_cons, Option.mem_def.mp hchoice]
    exact List.mem_cons_self
  exact similarity_lt_of_choice_eq_none hnone hleft

end Round

end SchemaEvolution
