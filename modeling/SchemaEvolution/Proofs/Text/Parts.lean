import SchemaEvolution.Proofs.Text.Words
import SchemaEvolution.Text.Literal
import SchemaEvolution.Text.Nesting

/-! # Parts of a text
Trimming, cutting into words, pieces and literals, and looking for a closing parenthesis give
contiguous **parts** of the text they start from. A property of texts is **hereditary** when it
passes to such parts and to what is made of them: the content of a literal, and words joined by
spaces. -/

namespace SchemaEvolution

/-! ## Trimming -/

/-- Trimming at the start leaves an end of the text. -/
theorem suffix_trimStart (cs : List Char) : trimStart cs <:+ cs := List.dropWhile_suffix _

/-- Trimming at the end leaves a start of the text. -/
theorem prefix_trimEnd (cs : List Char) : trimEnd cs <+: cs := by
  rw [← List.reverse_suffix, trimEnd, List.reverse_reverse]
  exact List.dropWhile_suffix _

/-- Trimming leaves a part of the text. -/
theorem infix_trim (cs : List Char) : trim cs <:+: cs :=
  (prefix_trimEnd _).isInfix.trans (suffix_trimStart cs).isInfix

/-- A trimmed text has no blanks at its ends. -/
theorem trim_trim (cs : List Char) : trim (trim cs) = trim cs := by
  have hdrop : ∀ ds : List Char, ∀ c ∈ (ds.dropWhile isBlank).head?, isBlank c = false := by
    intro ds c hc
    have hhead := List.head?_dropWhile_not isBlank ds
    rwa [Option.mem_def.mp hc] at hhead
  rw [trim_eq_self_iff]
  constructor
  · -- trimming at the end leaves the first character where it is
    intro c hc
    obtain ⟨back, hback⟩ := prefix_trimEnd (trimStart cs)
    have hhead : (trimStart cs).head? = some c := by
      rw [← hback, List.head?_append, ← trim, Option.mem_def.mp hc, Option.some_or]
    exact hdrop cs c hhead
  · intro c hc
    rw [trim, trimEnd, List.getLast?_reverse] at hc
    exact hdrop _ c hc

/-- Where blanks fail a test, trimming separates and joins nothing that passes it. -/
theorem apart_trim_iff {test : Char → Bool} (hblank : ∀ c, isBlank c = true → test c = false)
    (cs : List Char) : Apart test (trim cs) ↔ Apart test cs := by
  refine ⟨fun h => ?_, fun h => h.of_infix (infix_trim cs)⟩
  obtain ⟨front, back, hcs, hfront, hback⟩ := exists_blanks_trim cs
  have hends : ∀ blanks : List Char, (∀ b ∈ blanks, isBlank b = true) →
      ∀ b ∈ blanks, test b = false := fun blanks hblanks b hb => hblank b (hblanks b hb)
  have hfront := hends front hfront
  have hback := hends back hback
  rw [hcs]
  refine ((Apart.of_forall_not hfront).append h (.inl fun c hc => ?_)).append
    (Apart.of_forall_not hback) (.inr fun c hc => ?_)
  · exact hfront c (List.mem_of_mem_getLast? hc)
  · exact hback c (List.mem_of_mem_head? hc)

/-! ## Cutting -/

/-- A list of texts are **pieces** of a text: each is a part of it and the first one stands at its
front. -/
structure ArePieces (cs : List Char) (pieces : List (List Char)) : Prop where
  /-- Every piece is a part of the text. -/
  isInfix : ∀ piece ∈ pieces, piece <:+: cs
  /-- The first piece is at the front. -/
  isPrefix : ∀ piece ∈ pieces.head?, piece <+: cs

namespace ArePieces

variable {cs : List Char} {pieces : List (List Char)}

/-- Before anything is cut there is one empty piece. -/
theorem nil : ArePieces [] [[]] where
  isInfix := by simp
  isPrefix := by simp

/-- A separator in front starts a new piece. -/
theorem separator (h : ArePieces cs pieces) (c : Char) : ArePieces (c :: cs) ([] :: pieces) where
  isInfix := List.forall_mem_cons.mpr
    ⟨List.nil_infix, fun piece hpiece => List.infix_cons (h.isInfix piece hpiece)⟩
  isPrefix := by simp

/-- Another character in front goes to the first piece. -/
theorem cons (h : ArePieces cs pieces) (c : Char) :
    ArePieces (c :: cs) (pieces.modifyHead (c :: ·)) := by
  cases pieces with
  | nil => exact ⟨by simp, by simp⟩
  | cons first rest =>
    have hfirst : c :: first <+: c :: cs :=
      List.cons_prefix_cons.mpr ⟨rfl, h.isPrefix first rfl⟩
    refine ⟨List.forall_mem_cons.mpr ⟨hfirst.isInfix, fun piece hpiece => ?_⟩, ?_⟩
    · exact List.infix_cons (h.isInfix piece (List.mem_cons_of_mem first hpiece))
    · rintro piece ⟨⟩
      exact hfirst

end ArePieces

/-- The pieces between separating characters are pieces of the text. -/
theorem arePieces_splitOnP (test : Char → Bool) (cs : List Char) :
    ArePieces cs (cs.splitOnP test) := by
  induction cs with
  | nil => exact .nil
  | cons c cs ih =>
    rw [List.splitOnP_cons_eq_if_modifyHead]
    split
    · exact ih.separator c
    · exact ih.cons c

/-- The pieces between separators outside parentheses are pieces of the text. -/
theorem arePieces_piecesOutside (separator : Char) (depth : Nat) (cs : List Char) :
    ArePieces cs (piecesOutside separator depth cs) := by
  induction cs generalizing depth with
  | nil => exact .nil
  | cons c cs ih =>
    rw [piecesOutside_cons]
    split
    · exact (ih _).separator c
    · exact (ih _).cons c

/-- The pieces between commas outside quotes are pieces of the text. -/
theorem arePieces_literalPieces (quoted : Bool) (cs : List Char) :
    ArePieces cs (literalPieces quoted cs) := by
  induction cs generalizing quoted with
  | nil => exact .nil
  | cons c cs ih =>
    rw [literalPieces]
    split
    · exact (ih _).cons c
    · split
      · exact (ih _).separator c
      · exact (ih _).cons c

/-- A word is a part of the text. -/
theorem infix_of_mem_words {cs w : List Char} (h : w ∈ words cs) : w <:+: cs :=
  (arePieces_splitOnP isBlank cs).isInfix w (List.mem_of_mem_filter h)

/-- A fragment is a part of the text. -/
theorem infix_of_mem_splitOutside {separator : Char} {cs piece : List Char}
    (h : piece ∈ splitOutside separator cs) : piece <:+: cs := by
  obtain ⟨whole, hwhole, rfl⟩ := List.mem_map.mp (List.mem_of_mem_filter h)
  exact (infix_trim whole).trans ((arePieces_piecesOutside separator 0 cs).isInfix whole hwhole)

/-! ## Deleting and joining -/

/-- Two characters that are kept stand side by side in a filtered text exactly when nothing that is
kept stands between them in the text. -/
theorem pair_infix_filter_iff {kept : Char → Bool} {a b : Char} (ha : kept a = true)
    (hb : kept b = true) (cs : List Char) :
    [a, b] <:+: cs.filter kept ↔
      ∃ between, (∀ c ∈ between, kept c = false) ∧ a :: (between ++ [b]) <:+: cs := by
  constructor
  · rintro ⟨front, back, hfilter⟩
    rw [List.append_assoc, eq_comm, List.filter_eq_append_iff] at hfilter
    -- what was dropped in front of `a` and between the two is given back
    obtain ⟨before, rest, rfl, -, hrest⟩ := hfilter
    obtain ⟨lost, tail, rfl, -, -, htail⟩ := List.filter_eq_cons_iff.mp hrest
    obtain ⟨between, behind, rfl, hbetween, -, -⟩ := List.filter_eq_cons_iff.mp htail
    refine ⟨between, fun c hc => ?_, before ++ lost, behind, by simp⟩
    simpa using hbetween c hc
  · rintro ⟨between, hbetween, hpart⟩
    have hnothing : between.filter kept = [] :=
      List.filter_eq_nil_iff.mpr fun c hc => by simp [hbetween c hc]
    have hfilter := hpart.filter kept
    rwa [List.filter_cons_of_pos ha, List.filter_append, hnothing, List.nil_append,
      List.filter_cons_of_pos hb, List.filter_nil] at hfilter

/-- A text without a separator stands on one side of it. -/
theorem infix_append_cons_iff {separator : Char} {part : List Char} (hpart : separator ∉ part)
    (cs ds : List Char) : part <:+: cs ++ separator :: ds ↔ part <:+: cs ∨ part <:+: ds := by
  constructor
  · intro h
    rcases List.infix_append_iff.mp h with hleft | hright | ⟨front, back, rfl, hfront, hback⟩
    · exact .inl hleft
    · rcases List.infix_cons_iff.mp hright with hprefix | hinfix
      · cases part with
        | nil => exact .inl List.nil_infix
        | cons c rest =>
          obtain ⟨rfl, -⟩ := List.cons_prefix_cons.mp hprefix
          exact absurd List.mem_cons_self hpart
      · exact .inr hinfix
    · -- a part that reaches over the separator holds it
      cases back with
      | nil =>
        rw [List.append_nil]
        exact .inl hfront.isInfix
      | cons c rest =>
        obtain ⟨rfl, -⟩ := List.cons_prefix_cons.mp hback
        exact absurd (List.mem_append_right front List.mem_cons_self) hpart
  · rintro (h | h)
    · exact h.trans (List.prefix_append cs _).isInfix
    · exact (List.infix_cons h).trans (List.suffix_append cs _).isInfix

/-- A text without the separator stands in one of the pieces that are joined. -/
theorem infix_joinWith_iff {separator : Char} {part : List Char} (hne : part ≠ [])
    (hpart : separator ∉ part) (pieces : List (List Char)) :
    part <:+: joinWith [separator] pieces ↔ ∃ piece ∈ pieces, part <:+: piece := by
  induction pieces with
  | nil => simp [hne]
  | cons piece rest ih =>
    cases rest with
    | nil => simp
    | cons next rest =>
      rw [joinWith_cons_cons, List.append_assoc, List.singleton_append,
        infix_append_cons_iff hpart, ih]
      exact (List.exists_mem_cons_iff _ _ _).symm

/-- Pieces are joined without a pair of neighbours that pass a test, when no character of the
separator passes it. -/
theorem Apart.joinWith {test : Char → Bool} {c : Char} {separator : List Char}
    (hseparator : ((c :: separator).all fun d => !test d) = true) {pieces : List (List Char)}
    (h : ∀ piece ∈ pieces, Apart test piece) :
    Apart test (SchemaEvolution.joinWith (c :: separator) pieces) := by
  have hfails : ∀ d ∈ c :: separator, test d = false := by
    simpa only [List.all_eq_true, Bool.not_eq_true'] using hseparator
  induction pieces with
  | nil => exact .nil
  | cons piece rest ih =>
    rw [List.forall_mem_cons] at h
    cases rest with
    | nil =>
      rw [joinWith_singleton]
      exact h.1
    | cons next rest =>
      rw [joinWith_cons_cons, List.append_assoc]
      -- the separator keeps the ends of its neighbours apart
      refine h.1.append ((of_forall_not hfails).append (ih h.2) (.inl fun d hd => ?_))
        (.inr fun d hd => ?_)
      · exact hfails d (List.mem_of_mem_getLast? hd)
      · exact hfails d (Option.mem_some_iff.mp hd ▸ List.mem_cons_self)

/-! ## Between two characters -/

/-- What stands before a closing parenthesis is at the front of the text. -/
theorem prefix_of_insideParens? {depth : Nat} {cs body : List Char}
    (h : insideParens? depth cs = some body) : body <+: cs := by
  induction cs generalizing depth body with
  | nil => cases h
  | cons c cs ih =>
    -- the character is kept in front of what is found in the rest
    have hkeep : ∀ depth, (insideParens? depth cs).map (c :: ·) = some body → body <+: c :: cs := by
      intro depth hmap
      obtain ⟨rest, hrest, rfl⟩ := Option.map_eq_some_iff.mp hmap
      exact List.cons_prefix_cons.mpr ⟨rfl, ih hrest⟩
    unfold insideParens? at h
    split at h
    · exact hkeep _ h
    · split at h
      · cases depth with
        | zero => exact Option.some.inj h ▸ List.nil_prefix
        | succ depth => exact hkeep _ h
      · exact hkeep _ h

/-- What stands between quotes is a part of the text. -/
theorem infix_of_betweenQuotes? {item content : List Char}
    (h : betweenQuotes? item = some content) : content <:+: item := by
  cases item with
  | nil => cases h
  | cons c cs =>
    rw [betweenQuotes?, Option.ite_none_right_eq_some, Option.some.injEq] at h
    rw [← h.2]
    exact List.infix_cons (List.dropLast_prefix cs).isInfix

/-! ## Hereditary properties -/

/-- A property of texts is **hereditary** when reading a text hands it on. -/
structure Hereditary (P : List Char → Prop) : Prop where
  /-- Parts of a text inherit it. -/
  infix_of : ∀ {cs ds : List Char}, cs <:+: ds → P ds → P cs
  /-- The content of a literal inherits it. -/
  halve : ∀ {cs : List Char}, P cs → P (halveQuotes cs)
  /-- Words that are joined by spaces hand it on. -/
  join : ∀ {ws : List (List Char)}, (∀ w ∈ ws, IsWord w ∧ P w) → P (unwords ws)

namespace Hereditary

variable {P : List Char → Prop} {cs : List Char}

/-- A value inherits the property from the item that it is written as. -/
theorem unquote (h : Hereditary P) (hcs : P cs) : P (unquote cs) := by
  unfold SchemaEvolution.unquote
  split
  · next content hcontent => exact h.halve (h.infix_of (infix_of_betweenQuotes? hcontent) hcs)
  · exact hcs

/-- The values of a list inherit the property from its text. -/
theorem of_mem_literalValues (h : Hereditary P) (hcs : P cs) {value : List Char}
    (hvalue : value ∈ literalValues cs) : P value := by
  obtain ⟨piece, hpiece, rfl⟩ := List.mem_map.mp (List.mem_of_mem_filter hvalue)
  have hpart := (infix_trim piece).trans ((arePieces_literalPieces false cs).isInfix piece hpiece)
  exact h.unquote (h.infix_of hpart hcs)

/-- Some of the words of a text, joined again, inherit the property. -/
theorem unwords_of_subset (h : Hereditary P) (hcs : P cs) {ws : List (List Char)}
    (hws : ws ⊆ words cs) : P (unwords ws) :=
  h.join fun _ hw =>
    ⟨isWord_of_mem_words (hws hw), h.infix_of (infix_of_mem_words (hws hw)) hcs⟩

end Hereditary

/-- The characters of text with halved quotes are those of the text. -/
theorem mem_of_mem_halveQuotes {cs : List Char} {c : Char} (h : c ∈ halveQuotes cs) : c ∈ cs := by
  fun_induction halveQuotes cs with
  | case1 => exact h
  | case2 d => exact h
  | case3 first second rest hquotes ih =>
    -- one of the two quotes is left
    rcases List.mem_cons.mp h with rfl | hrest
    · exact hquotes.1 ▸ List.mem_cons_self
    · exact List.mem_cons_of_mem first (List.mem_cons_of_mem second (ih hrest))
  | case4 first second rest _ ih =>
    rcases List.mem_cons.mp h with rfl | hrest
    · exact List.mem_cons_self
    · exact List.mem_cons_of_mem first (ih hrest)

end SchemaEvolution
