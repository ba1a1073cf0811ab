import SchemaEvolution.Proofs.Text.Nesting
import SchemaEvolution.Proofs.Text.Parts

/-! # Cutting and joining
Cutting a text at a separator and joining fragments with it are inverse. Fragments that are **spaced
out**, with any blanks around the separators between them, are found again. The fragments of a
well-nested text are its pieces between the **top-level separators**, in front of which all
parentheses that are opened are closed: a text is never cut inside parentheses. -/

namespace SchemaEvolution

/-- A character can **separate** fragments when it is neither a parenthesis nor a blank. -/
structure IsSeparator (c : Char) : Prop where
  /-- A separator opens no parenthesis. -/
  ne_open : c ≠ '('
  /-- A separator closes no parenthesis. -/
  ne_close : c ≠ ')'
  /-- A separator is not lost when a text is trimmed. -/
  not_blank : isBlank c = false

/-- The comma separates. -/
theorem isSeparator_comma : IsSeparator ',' := ⟨by decide, by decide, by decide⟩

variable {separator : Char} {cs : List Char} {depth : Nat}

/-- A separator leaves the number of open parentheses as it is. -/
theorem IsSeparator.depthAfter (h : IsSeparator separator) (depth : Nat) :
    SchemaEvolution.depthAfter depth separator = depth :=
  depthAfter_of_ne h.ne_open h.ne_close depth

/-! ## Joined fragments -/

/-- A text **spaces out** fragments when it consists of them in their order, with one separator
between neighbours and any blanks around each separator. -/
inductive SpacesOut (separator : Char) : List (List Char) → List Char → Prop
  /-- Without fragments the text is empty. -/
  | nil : SpacesOut separator [] []
  /-- The text of one fragment is that fragment. -/
  | singleton (fragment : List Char) : SpacesOut separator [fragment] fragment
  /-- A fragment goes in front of others with a separator and blanks on both sides of it. -/
  | cons (fragment before behind : List Char) {next cs : List Char} {rest : List (List Char)}
      (hbefore : ∀ c ∈ before, isBlank c = true) (hbehind : ∀ c ∈ behind, isBlank c = true)
      (h : SpacesOut separator (next :: rest) cs) :
      SpacesOut separator (fragment :: next :: rest)
        (fragment ++ before ++ separator :: (behind ++ cs))

/-- **Fragments that are spaced out are found again.** -/
theorem SpacesOut.splitOutside_eq (hseparator : IsSeparator separator)
    {fragments : List (List Char)} (h : SpacesOut separator fragments cs)
    (hfragments : ∀ fragment ∈ fragments, IsFragment separator fragment) :
    splitOutside separator cs = fragments := by
  induction h with
  | nil => exact splitOutside_nil separator
  | singleton fragment => exact (hfragments fragment List.mem_cons_self).splitOutside_eq
  | cons fragment before behind hbefore hbehind h ih =>
    rw [List.forall_mem_cons] at hfragments
    -- blanks open no parenthesis, so nothing is open at the separator behind them
    have hnested : WellNested (fragment ++ before) :=
      hfragments.1.nested.append (.of_blanks hbefore)
    rw [hnested.splitOutside_append_cons hseparator.ne_open,
      splitOutside_append_blanks hseparator.not_blank hbefore,
      splitOutside_blanks_append hseparator.not_blank hbehind, hfragments.1.splitOutside_eq,
      ih hfragments.2, List.singleton_append]

/-- Fragments that are joined with a separator and a blank are spaced out. -/
theorem spacesOut_joinWith {c : Char} (hc : isBlank c = true) (fragments : List (List Char)) :
    SpacesOut separator fragments (joinWith [separator, c] fragments) := by
  induction fragments with
  | nil => exact .nil
  | cons fragment rest ih =>
    cases rest with
    | nil => exact .singleton fragment
    | cons next rest =>
      have hspaced : SpacesOut separator (fragment :: next :: rest)
          (fragment ++ [] ++ separator :: ([c] ++ joinWith [separator, c] (next :: rest))) :=
        .cons fragment [] [c] (by simp) (by simpa using hc) ih
      simpa using hspaced

/-- Fragments with a separator and a blank between neighbours, and a blank at the end, are found
again. -/
theorem splitOutside_joinWith (hseparator : IsSeparator separator) {c : Char}
    (hc : isBlank c = true) {fragments : List (List Char)}
    (h : ∀ fragment ∈ fragments, IsFragment separator fragment) :
    splitOutside separator (joinWith [separator, c] fragments ++ [c]) = fragments := by
  rw [splitOutside_concat_of_blank hc (ne_of_isBlank hc hseparator.not_blank)]
  exact (spacesOut_joinWith hc fragments).splitOutside_eq hseparator h

/-! ## Pieces of well-nested texts -/

/-- A text is a **piece** behind some open parentheses when it closes these and is not cut. -/
structure IsPiece (separator : Char) (depth : Nat) (cs : List Char) : Prop where
  /-- All open parentheses are closed at the end. -/
  closed : openAfter? depth cs = some 0
  /-- No separator stands outside parentheses. -/
  uncut : hasOutside separator depth cs = false

/-- A character in front of a piece that is not cut there belongs to it. -/
theorem IsPiece.cons {c : Char} (h : IsPiece separator (depthAfter depth c) cs)
    (hclosed : ¬(c = ')' ∧ depth = 0)) (hcut : ¬(c = separator ∧ depth = 0)) :
    IsPiece separator depth (c :: cs) where
  closed := (openAfter?_cons_eq_some_iff _ _ _ _).mpr ⟨hclosed, h.closed⟩
  uncut := by
    rw [hasOutside, h.uncut, Bool.or_false]
    simpa using hcut

/-- A piece that is not blank is trimmed to a fragment. -/
theorem IsPiece.isFragment_trim (h : IsPiece separator 0 cs) (hseparator : IsSeparator separator)
    (hne : trim cs ≠ []) : IsFragment separator (trim cs) where
  ne_nil := hne
  trimmed := trim_trim cs
  nested := (wellNested_trim_iff cs).mpr h.closed
  uncut := (hasOutside_trim hseparator.not_blank 0 cs).trans h.uncut

/-- A text that closes all open parentheses is cut into pieces. The first one closes them, so
nothing is open in front of the others. -/
theorem exists_piecesOutside_eq_cons (hseparator : IsSeparator separator)
    (h : openAfter? depth cs = some 0) :
    ∃ first rest, piecesOutside separator depth cs = first :: rest ∧
      IsPiece separator depth first ∧ ∀ piece ∈ rest, IsPiece separator 0 piece := by
  -- by induction on the text: what is left of it closes what is open in front of it
  induction cs generalizing depth with
  | nil => exact ⟨[], [], rfl, ⟨h, rfl⟩, by simp⟩
  | cons c cs ih =>
    obtain ⟨hclosed, hrest⟩ := (openAfter?_cons_eq_some_iff _ _ _ _).mp h
    obtain ⟨first, rest, hpieces, hfirst, hothers⟩ := ih hrest
    rw [piecesOutside_cons]
    by_cases hcut : c = separator ∧ depth = 0
    · -- an empty piece ends at the separator, and nothing is open behind it
      obtain ⟨rfl, rfl⟩ := hcut
      rw [hseparator.depthAfter] at hpieces hfirst
      rw [if_pos ⟨rfl, rfl⟩, hpieces]
      exact ⟨[], first :: rest, rfl, ⟨rfl, rfl⟩, List.forall_mem_cons.mpr ⟨hfirst, hothers⟩⟩
    · rw [if_neg hcut, hpieces, List.modifyHead_cons]
      exact ⟨c :: first, rest, rfl, hfirst.cons hclosed hcut, hothers⟩

/-- **A well-nested text is cut into fragments.** -/
theorem WellNested.isFragment_of_mem_splitOutside (hseparator : IsSeparator separator)
    (h : WellNested cs) {fragment : List Char} (hmem : fragment ∈ splitOutside separator cs) :
    IsFragment separator fragment := by
  obtain ⟨first, rest, hpieces, hfirst, hothers⟩ := exists_piecesOutside_eq_cons hseparator h
  have hall : ∀ piece ∈ piecesOutside separator 0 cs, IsPiece separator 0 piece := by
    rw [hpieces]
    exact List.forall_mem_cons.mpr ⟨hfirst, hothers⟩
  obtain ⟨htrimmed, hne⟩ := List.mem_filter.mp hmem
  obtain ⟨piece, hpiece, rfl⟩ := List.mem_map.mp htrimmed
  exact (hall piece hpiece).isFragment_trim hseparator (by simpa using hne)

/-! ## Top level -/

/-- In a well-nested text a **top-level separator** stands where as many parentheses have been
closed as opened. -/
def IsTopLevel (separator : Char) (cs : List Char) (place : Nat) : Prop :=
  cs[place]? = some separator ∧ (cs.take place).count '(' = (cs.take place).count ')'

instance (separator : Char) (cs : List Char) (place : Nat) :
    Decidable (IsTopLevel separator cs place) :=
  inferInstanceAs (Decidable (_ ∧ _))

/-- The pieces of a text between its top-level separators. -/
def topLevelPieces (separator : Char) (cs : List Char) : List (List Char) :=
  (cs.zipIdx.splitOnP fun entry => decide (IsTopLevel separator cs entry.2)).map
    fun piece => piece.map Prod.fst

/-- The character behind a front of a text is a top-level separator when it is the separator and
nothing is open there. -/
theorem isTopLevel_append_iff {front : List Char} (h : openAfter? 0 front = some depth) (c : Char)
    (cs : List Char) :
    IsTopLevel separator (front ++ c :: cs) front.length ↔ c = separator ∧ depth = 0 := by
  have hcount := count_parens h
  have hplace : (front ++ c :: cs)[front.length]? = some c := by simp
  rw [IsTopLevel, hplace, List.take_left, Option.some_inj]
  refine and_congr_right fun _ => ?_
  omega

/-- Behind a front of a text the rest is cut at the top-level separators of the whole text. -/
theorem map_splitOnP_zipIdx (hseparator : IsSeparator separator) {front : List Char} {final : Nat}
    (hfront : openAfter? 0 front = some depth) (hcs : openAfter? depth cs = some final) :
    ((cs.zipIdx front.length).splitOnP fun entry =>
        decide (IsTopLevel separator (front ++ cs) entry.2)).map (fun piece => piece.map Prod.fst) =
      piecesOutside separator depth cs := by
  -- the whole text stays the same: each character goes from the rest to the front
  induction cs generalizing front depth with
  | nil => simp
  | cons c cs ih =>
    obtain ⟨hclosed, hrest⟩ := (openAfter?_cons_eq_some_iff _ _ _ _).mp hcs
    have hnext : openAfter? 0 (front ++ [c]) = some (depthAfter depth c) := by
      rw [openAfter?_append, hfront, Option.bind_some, openAfter?_cons_eq_some_iff]
      exact ⟨hclosed, rfl⟩
    have hpieces := ih hnext hrest
    rw [List.append_assoc, List.singleton_append, List.length_append, List.length_singleton]
      at hpieces
    rw [List.zipIdx_cons, List.splitOnP_cons_eq_if_modifyHead, piecesOutside_cons]
    simp only [decide_eq_true_eq, isTopLevel_append_iff hfront]
    by_cases hcut : c = separator ∧ depth = 0
    · rw [if_pos hcut, if_pos hcut, List.map_cons, List.map_nil, hpieces]
      obtain ⟨rfl, rfl⟩ := hcut
      rw [hseparator.depthAfter]
    · -- the character goes to the first piece, and its place goes with it
      obtain ⟨first, rest, hsplit⟩ := List.exists_cons_of_ne_nil (List.splitOnP_ne_nil
        (fun entry => decide (IsTopLevel separator (front ++ c :: cs) entry.2))
        (cs.zipIdx (front.length + 1)))
      rw [if_neg hcut, if_neg hcut, ← hpieces, hsplit, List.modifyHead_cons, List.map_cons,
        List.map_cons, List.map_cons, List.modifyHead_cons]

/-- The pieces of a well-nested text are those between its top-level separators. -/
theorem WellNested.topLevelPieces_eq (hseparator : IsSeparator separator) (h : WellNested cs) :
    topLevelPieces separator cs = piecesOutside separator 0 cs :=
  map_splitOnP_zipIdx hseparator (openAfter?_nil 0) h

/-- In a well-nested text the separators outside parentheses are those at top level. -/
theorem WellNested.hasOutside_iff (h : WellNested cs) :
    hasOutside separator 0 cs = true ↔ ∃ place, IsTopLevel separator cs place := by
  rw [hasOutside_eq_true_iff]
  constructor
  · rintro ⟨front, back, rfl, hdepth⟩
    obtain ⟨depth, hfront⟩ := h.exists_openAfter?
    rw [SchemaEvolution.foldl_depthAfter hfront] at hdepth
    exact ⟨front.length, (isTopLevel_append_iff hfront separator back).mpr ⟨rfl, hdepth⟩⟩
  · rintro ⟨place, hplace, hcount⟩
    obtain ⟨hlt, hget⟩ := List.getElem?_eq_some_iff.mp hplace
    have hcs : cs = cs.take place ++ separator :: cs.drop (place + 1) := by
      rw [← hget, List.getElem_cons_drop, List.take_append_drop]
    rw [hcs] at h
    obtain ⟨depth, hfront⟩ := h.exists_openAfter?
    -- as many parentheses are opened as closed in front of the place
    have hdepth : depth = 0 := by
      have hparens := count_parens hfront
      omega
    exact ⟨_, _, hcs, (SchemaEvolution.foldl_depthAfter hfront).trans hdepth⟩

/-- **Cutting and joining are inverse.** Fragments that are spaced out with a separator are found
again. A well-nested text is cut into fragments, none of which has a separator at top level; these
are, in their order, the pieces between the top-level separators of the text, trimmed, without those
that are empty; and the pieces joined with the separator are the text. -/
theorem splitOutside_at_topLevel (hseparator : IsSeparator separator) :
    (∀ (fragments : List (List Char)) (cs : List Char),
        (∀ fragment ∈ fragments, IsFragment separator fragment) →
          SpacesOut separator fragments cs → splitOutside separator cs = fragments) ∧
      ∀ cs : List Char, WellNested cs →
        (∀ fragment ∈ splitOutside separator cs,
            IsFragment separator fragment ∧ ∀ place, ¬IsTopLevel separator fragment place) ∧
          splitOutside separator cs =
            (((topLevelPieces separator cs).map trim).filter fun piece => !piece.isEmpty) ∧
          joinWith [separator] (topLevelPieces separator cs) = cs := by
  refine ⟨fun fragments cs hfragments h => h.splitOutside_eq hseparator hfragments,
    fun cs h => ⟨?_, ?_, ?_⟩⟩
  · intro fragment hmem
    have hfragment := h.isFragment_of_mem_splitOutside hseparator hmem
    refine ⟨hfragment, fun place hplace => ?_⟩
    have houtside := hfragment.nested.hasOutside_iff.mpr ⟨place, hplace⟩
    rw [hfragment.uncut] at houtside
    exact absurd houtside Bool.false_ne_true
  · rw [h.topLevelPieces_eq hseparator, splitOutside]
  · rw [h.topLevelPieces_eq hseparator, joinWith_piecesOutside]

namespace Sample

/-- Clauses with commas in parentheses. -/
def nestedClauses : List (List Char) :=
  ["id INT", "price NUMERIC(10,2)", "CHECK (price > least(1, (id)))"].map String.toList

/-- The clauses with different blanks around the commas between them. -/
def spacedClauses : String := "id INT\n,\t\u3000price NUMERIC(10,2),CHECK (price > least(1, (id)))"

/-- A text with commas in a row, at its ends and in parentheses. -/
def raggedClauses : String := ", a (b, (c)) ,, \t,(,)d ,"

end Sample

/-- In the samples the commas in parentheses cut nothing, and the others leave no empty fragment. -/
theorem sample_cut_at_topLevel :
    IsSeparator ',' ∧
      ((∀ fragment ∈ Sample.nestedClauses, IsFragment ',' fragment) ∧
        SpacesOut ',' Sample.nestedClauses Sample.spacedClauses.toList ∧
        splitOutside ',' Sample.spacedClauses.toList = Sample.nestedClauses) ∧
      WellNested Sample.raggedClauses.toList ∧
        splitOutside ',' Sample.raggedClauses.toList =
          ["a (b, (c))", "(,)d"].map String.toList := by
  have hfragments : ∀ fragment ∈ Sample.nestedClauses, IsFragment ',' fragment := by
    decide +kernel
  have hblank : ∀ blanks : List Char, blanks.all isBlank = true → ∀ c ∈ blanks, isBlank c = true :=
    fun _ => List.all_eq_true.mp
  have htext : Sample.spacedClauses.toList =
      "id INT".toList ++ ['\n'] ++ ',' :: (['\t', '\u3000'] ++
        ("price NUMERIC(10,2)".toList ++ [] ++ ',' :: ([] ++
          "CHECK (price > least(1, (id)))".toList))) := by decide +kernel
  have hspaced : SpacesOut ',' Sample.nestedClauses Sample.spacedClauses.toList := by
    rw [htext]
    exact .cons _ _ _ (hblank _ (by decide)) (hblank _ (by decide))
      (.cons _ _ _ (hblank _ (by decide)) (hblank _ (by decide)) (.singleton _))
  have hnested : WellNested Sample.raggedClauses.toList := by decide +kernel
  have hpieces : ((topLevelPieces ',' Sample.raggedClauses.toList).map trim).filter
      (fun piece => !piece.isEmpty) = ["a (b, (c))", "(,)d"].map String.toList := by
    decide +kernel
  obtain ⟨hjoined, hcut⟩ := splitOutside_at_topLevel isSeparator_comma
  exact ⟨isSeparator_comma, ⟨hfragments, hspaced, hjoined _ _ hfragments hspaced⟩, hnested,
    (hcut _ hnested).2.1.trans hpieces⟩

end SchemaEvolution
