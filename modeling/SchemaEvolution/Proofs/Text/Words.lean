import SchemaEvolution.Text.Blank
import Mathlib.Data.List.Chain

/-! # Words and single spaces
A text is **tidy** when its blanks are single spaces between other characters. The tidy texts are
those that consist of words one space apart, and tidying a text that is tidy changes nothing. What
stands on the two sides of a blank is cut into words separately. -/

namespace SchemaEvolution

/-! ## Neighbours -/

/-- No two neighbours in a text pass a test. -/
def Apart (test : Char → Bool) (cs : List Char) : Prop :=
  cs.IsChain fun c d => ¬(test c = true ∧ test d = true)

instance (test : Char → Bool) (cs : List Char) : Decidable (Apart test cs) :=
  inferInstanceAs (Decidable (cs.IsChain fun c d => ¬(test c = true ∧ test d = true)))

namespace Apart

variable {test : Char → Bool}

/-- In an empty text nothing stands side by side. -/
@[simp] theorem nil : Apart test [] := List.isChain_nil

/-- A character that fails the test has no part in it. -/
theorem cons_iff_of_not {c : Char} (h : test c = false) (cs : List Char) :
    Apart test (c :: cs) ↔ Apart test cs := by
  unfold Apart
  rw [List.isChain_cons]
  simp [h]

/-- A character that fails the test separates what stands on its sides. -/
theorem append_cons_iff_of_not {c : Char} (h : test c = false) (cs ds : List Char) :
    Apart test (cs ++ c :: ds) ↔ Apart test cs ∧ Apart test ds := by
  unfold Apart
  rw [List.isChain_append, List.isChain_cons]
  simp [h]

/-- Texts that meet in a character that fails the test are put together. -/
theorem append {cs ds : List Char} (hcs : Apart test cs) (hds : Apart test ds)
    (h : (∀ c ∈ cs.getLast?, test c = false) ∨ ∀ d ∈ ds.head?, test d = false) :
    Apart test (cs ++ ds) := by
  refine List.IsChain.append hcs hds fun c hc d hd hboth => ?_
  rcases h with h | h
  · exact absurd hboth.1 (by simp [h c hc])
  · exact absurd hboth.2 (by simp [h d hd])

/-- Nothing passes the test, so no two neighbours do. -/
theorem of_forall_not {cs : List Char} (h : ∀ c ∈ cs, test c = false) : Apart test cs := by
  induction cs with
  | nil => exact nil
  | cons c cs ih =>
    rw [List.forall_mem_cons] at h
    exact (cons_iff_of_not h.1 cs).mpr (ih h.2)

/-- A part of a text inherits it. -/
theorem of_infix {cs ds : List Char} (h : Apart test ds) (hcs : cs <:+: ds) : Apart test cs :=
  List.IsChain.infix h hcs

end Apart

/-! ## Runs -/

/-- A run that passes a test is taken up to the first element that fails it. -/
theorem takeWhile_append_eq_left {α : Type} {test : α → Bool} {xs ys : List α}
    (hxs : ∀ x ∈ xs, test x = true) (hys : ∀ y ∈ ys.head?, test y = false) :
    (xs ++ ys).takeWhile test = xs := by
  rw [List.takeWhile_append_of_pos hxs]
  cases ys with
  | nil => simp
  | cons y ys => simp [hys y rfl]

/-- What is left behind a run starts with the first element that fails the test. -/
theorem dropWhile_append_eq_right {α : Type} {test : α → Bool} {xs ys : List α}
    (hxs : ∀ x ∈ xs, test x = true) (hys : ∀ y ∈ ys.head?, test y = false) :
    (xs ++ ys).dropWhile test = ys := by
  rw [List.dropWhile_append_of_pos hxs]
  cases ys with
  | nil => simp
  | cons y ys => simp [hys y rfl]

/-! ## Trimming -/

/-- A blank is not a character that is none. -/
theorem ne_of_isBlank {c d : Char} (hc : isBlank c = true) (hd : isBlank d = false) : c ≠ d := by
  rintro rfl
  exact absurd hc (by simp [hd])

/-- A text that starts with no blank has nothing to lose there. -/
theorem trimStart_eq_self {cs : List Char} (h : ∀ c ∈ cs.head?, isBlank c = false) :
    trimStart cs = cs := by
  cases cs with
  | nil => rfl
  | cons c cs =>
    have hc : isBlank c = false := h c rfl
    simp [trimStart_cons, hc]

/-- A text that ends with no blank has nothing to lose there. -/
theorem trimEnd_eq_self {cs : List Char} (h : ∀ c ∈ cs.getLast?, isBlank c = false) :
    trimEnd cs = cs := by
  induction cs using List.reverseRecOn with
  | nil => rfl
  | append_singleton cs c =>
    have hc : isBlank c = false := h c (by simp)
    simp [trimEnd_concat, hc]

/-- A blank at the start is trimmed. -/
theorem trim_cons_of_blank {c : Char} (h : isBlank c = true) (cs : List Char) :
    trim (c :: cs) = trim cs := by
  simp [trim, trimStart_cons, h]

/-- A blank at the end is trimmed. -/
theorem trim_concat_of_blank {c : Char} (h : isBlank c = true) (cs : List Char) :
    trim (cs ++ [c]) = trim cs := by
  rw [trim, trim, trimStart, List.dropWhile_append, ← trimStart]
  by_cases hcs : (trimStart cs).isEmpty = true
  · -- there are only blanks, and the one at the end goes with them
    rw [if_pos hcs, List.isEmpty_iff.mp hcs]
    simp [h]
  · rw [if_neg hcs, trimEnd_concat, if_pos h]

/-- A text is its trimmed part with blanks on both sides. -/
theorem exists_blanks_trim (cs : List Char) :
    ∃ front back, cs = front ++ trim cs ++ back ∧ (∀ c ∈ front, isBlank c = true) ∧
      ∀ c ∈ back, isBlank c = true := by
  have hend : trim cs ++ ((trimStart cs).reverse.takeWhile isBlank).reverse = trimStart cs := by
    rw [trim, trimEnd, ← List.reverse_append, List.takeWhile_append_dropWhile,
      List.reverse_reverse]
  refine ⟨cs.takeWhile isBlank, ((trimStart cs).reverse.takeWhile isBlank).reverse, ?_,
    List.all_eq_true.mp List.all_takeWhile, fun c hc => ?_⟩
  · rw [List.append_assoc, hend, trimStart, List.takeWhile_append_dropWhile]
  · rw [List.mem_reverse] at hc
    exact List.all_eq_true.mp List.all_takeWhile c hc

/-- Trimming makes no text longer. -/
theorem length_trim_le (cs : List Char) : (trim cs).length ≤ cs.length := by
  have hend : ∀ ds : List Char, (trimEnd ds).length ≤ ds.length := fun ds => by
    simpa [trimEnd] using (List.dropWhile_sublist (l := ds.reverse) isBlank).length_le
  exact (hend _).trans (List.dropWhile_sublist isBlank).length_le

/-- Trimming does not change a text exactly when it has no blanks at its ends. -/
theorem trim_eq_self_iff (cs : List Char) :
    trim cs = cs ↔ (∀ c ∈ cs.head?, isBlank c = false) ∧ ∀ c ∈ cs.getLast?, isBlank c = false := by
  constructor
  · intro h
    constructor
    · -- a blank at the start would be lost, and the text would be shorter
      intro c hc
      obtain ⟨rest, rfl⟩ := List.head?_eq_some_iff.mp hc
      by_contra hblank
      rw [Bool.not_eq_false] at hblank
      have hlength := length_trim_le rest
      rw [← trim_cons_of_blank hblank, h, List.length_cons] at hlength
      omega
    · intro c hc
      obtain ⟨rest, rfl⟩ := List.getLast?_eq_some_iff.mp hc
      by_contra hblank
      rw [Bool.not_eq_false] at hblank
      have hlength := length_trim_le rest
      rw [← trim_concat_of_blank hblank, h, List.length_append, List.length_singleton] at hlength
      omega
  · rintro ⟨hhead, hlast⟩
    rw [trim, trimStart_eq_self hhead, trimEnd_eq_self hlast]

/-- Joining pieces in two parts. -/
theorem joinWith_append (separator : List Char) {pieces others : List (List Char)}
    (hpieces : pieces ≠ []) (hothers : others ≠ []) :
    joinWith separator (pieces ++ others) =
      joinWith separator pieces ++ separator ++ joinWith separator others := by
  induction pieces with
  | nil => exact absurd rfl hpieces
  | cons piece pieces ih =>
    cases pieces with
    | nil =>
      obtain ⟨next, rest, rfl⟩ := List.exists_cons_of_ne_nil hothers
      rw [List.singleton_append, joinWith_cons_cons, joinWith_singleton]
    | cons next rest =>
      have hrest := ih (List.cons_ne_nil next rest)
      rw [List.cons_append] at hrest
      rw [List.cons_append, List.cons_append, joinWith_cons_cons, hrest, joinWith_cons_cons]
      simp only [List.append_assoc]

/-- Joining is what the library calls intercalation. -/
theorem joinWith_eq_intercalate (separator : List Char) (pieces : List (List Char)) :
    joinWith separator pieces = separator.intercalate pieces := by
  induction pieces with
  | nil => rfl
  | cons piece pieces ih =>
    cases pieces with
    | nil => rw [joinWith_singleton, List.intercalate_singleton]
    | cons next rest => rw [joinWith_cons_cons, ih, List.intercalate_cons_cons]

/-- A piece is a part of what it is joined to. -/
theorem infix_joinWith {separator piece : List Char} {pieces : List (List Char)}
    (h : piece ∈ pieces) : piece <:+: joinWith separator pieces := by
  induction pieces with
  | nil => cases h
  | cons first pieces ih =>
    cases pieces with
    | nil =>
      rw [List.mem_singleton.mp h]
      exact List.infix_refl _
    | cons next rest =>
      rw [joinWith_cons_cons]
      rcases List.mem_cons.mp h with rfl | hrest
      · rw [List.append_assoc]
        exact (List.prefix_append _ _).isInfix
      · exact (ih hrest).trans (List.suffix_append _ _).isInfix

/-- Pieces that are not empty are joined to a text that is not empty. -/
theorem joinWith_ne_nil (separator : List Char) {pieces : List (List Char)} (hne : pieces ≠ [])
    (h : ∀ piece ∈ pieces, piece ≠ []) : joinWith separator pieces ≠ [] := by
  obtain ⟨piece, rest, rfl⟩ := List.exists_cons_of_ne_nil hne
  have hpiece : piece ≠ [] := h piece List.mem_cons_self
  cases rest <;> simp [hpiece]

/-- Trimmed pieces that are not empty are joined to a trimmed text. -/
theorem trim_joinWith (separator : List Char) {pieces : List (List Char)}
    (h : ∀ piece ∈ pieces, piece ≠ [] ∧ trim piece = piece) :
    trim (joinWith separator pieces) = joinWith separator pieces := by
  induction pieces with
  | nil => rfl
  | cons piece pieces ih =>
    rw [List.forall_mem_cons] at h
    cases pieces with
    | nil => exact h.1.2
    | cons next rest =>
      have hrest := (trim_eq_self_iff _).mp (ih h.2)
      have hne : joinWith separator (next :: rest) ≠ [] :=
        joinWith_ne_nil separator (by simp) fun piece hpiece => (h.2 piece hpiece).1
      rw [joinWith_cons_cons, trim_eq_self_iff, List.append_assoc,
        List.head?_append_of_ne_nil _ h.1.1, ← List.append_assoc,
        List.getLast?_append_of_ne_nil _ hne]
      exact ⟨((trim_eq_self_iff _).mp h.1.2).1, hrest.2⟩

/-! ## Words -/

/-- A **word** is not empty and has no blank. -/
def IsWord (w : List Char) : Prop := w ≠ [] ∧ ∀ c ∈ w, isBlank c = false

/-- The two parts of being a word, as they are decided. -/
theorem isWord_iff (w : List Char) : IsWord w ↔ w ≠ [] ∧ w.any isBlank = false := by
  simp [IsWord, List.any_eq_false]

instance (w : List Char) : Decidable (IsWord w) := decidable_of_iff _ (isWord_iff w).symm

/-- An empty text has no words. -/
@[simp] theorem words_nil : words [] = [] := by simp [words]

/-- A blank ends a word. -/
theorem words_append_cons_of_blank {c : Char} (h : isBlank c = true) (cs ds : List Char) :
    words (cs ++ c :: ds) = words cs ++ words ds := by
  rw [words, List.splitOnP_append_cons cs ds h, List.filter_append, words, words]

/-- A blank at the start belongs to no word. -/
theorem words_cons_of_blank {c : Char} (h : isBlank c = true) (cs : List Char) :
    words (c :: cs) = words cs := by
  simpa using words_append_cons_of_blank h [] cs

/-- A word is its own only word. -/
theorem words_of_isWord {w : List Char} (h : IsWord w) : words w = [w] := by
  simp [words, List.splitOnP_eq_singleton h.2, h.1]

/-- A word and a blank in front of a text. -/
theorem words_word_append {w : List Char} (hw : IsWord w) {c : Char} (hc : isBlank c = true)
    (cs : List Char) : words (w ++ c :: cs) = w :: words cs := by
  rw [words_append_cons_of_blank hc, words_of_isWord hw, List.singleton_append]

/-- A character that is no blank starts a word or continues one. -/
theorem words_cons_of_not_blank {c : Char} (h : isBlank c = false) (cs : List Char) :
    words (c :: cs) =
      match cs with
      | [] => [[c]]
      | d :: ds =>
        if isBlank d then [c] :: words ds else (words (d :: ds)).modifyHead (c :: ·) := by
  have hword : IsWord [c] := ⟨by simp, by simpa using h⟩
  cases cs with
  | nil => exact words_of_isWord hword
  | cons d ds =>
    by_cases hd : isBlank d = true
    · simpa [hd] using words_word_append hword hd ds
    · cases hpieces : ds.splitOnP isBlank <;>
        simp [words, List.splitOnP_cons_eq_if_modifyHead, h, hd, hpieces]

/-- The pieces between separators have none inside. -/
theorem not_of_mem_splitOnP {test : Char → Bool} {cs w : List Char} (h : w ∈ cs.splitOnP test) :
    ∀ c ∈ w, test c = false := by
  induction cs generalizing w with
  | nil =>
    rw [List.splitOnP_nil, List.mem_singleton] at h
    simp [h]
  | cons c cs ih =>
    rw [List.splitOnP_cons_eq_if_modifyHead] at h
    split at h
    · rcases List.mem_cons.mp h with rfl | hrest
      · simp
      · exact ih hrest
    · -- no separator: the character goes to the first piece of the rest
      next hc =>
      cases hpieces : cs.splitOnP test with
      | nil => exact absurd hpieces (List.splitOnP_ne_nil _ _)
      | cons first rest =>
        rw [hpieces] at h ih
        rcases List.mem_cons.mp h with rfl | hrest
        · rw [List.forall_mem_cons]
          exact ⟨Bool.not_eq_true _ ▸ hc, ih List.mem_cons_self⟩
        · exact ih (List.mem_cons_of_mem first hrest)

/-- The words of a text are words. -/
theorem isWord_of_mem_words {cs w : List Char} (h : w ∈ words cs) : IsWord w := by
  obtain ⟨hpiece, hne⟩ := List.mem_filter.mp h
  exact ⟨by simpa using hne, not_of_mem_splitOnP hpiece⟩

/-- A word in front of other words. -/
theorem unwords_cons (w : List Char) {ws : List (List Char)} (h : ws ≠ []) :
    unwords (w :: ws) = w ++ ' ' :: unwords ws := by
  obtain ⟨next, rest, rfl⟩ := List.exists_cons_of_ne_nil h
  rw [unwords, joinWith_cons_cons, List.append_assoc, List.singleton_append, unwords]

/-- Joining words in two parts. -/
theorem unwords_append {ws vs : List (List Char)} (hws : ws ≠ []) (hvs : vs ≠ []) :
    unwords (ws ++ vs) = unwords ws ++ ' ' :: unwords vs := by
  rw [unwords, joinWith_append [' '] hws hvs, List.append_assoc, List.singleton_append, unwords,
    unwords]

/-- The characters of joined words are those of the words, and spaces. -/
theorem mem_unwords {ws : List (List Char)} {c : Char} (h : c ∈ unwords ws) :
    c = ' ' ∨ ∃ w ∈ ws, c ∈ w := by
  induction ws with
  | nil => cases h
  | cons w ws ih =>
    cases ws with
    | nil => exact .inr ⟨w, List.mem_cons_self, h⟩
    | cons next rest =>
      rw [unwords_cons w (by simp), List.mem_append, List.mem_cons] at h
      rcases h with hw | rfl | hrest
      · exact .inr ⟨w, List.mem_cons_self, hw⟩
      · exact .inl rfl
      · exact (ih hrest).imp_right fun ⟨v, hv, hc⟩ => ⟨v, List.mem_cons_of_mem w hv, hc⟩

/-- **Words that are joined are found again.** -/
theorem words_unwords {ws : List (List Char)} (h : ∀ w ∈ ws, IsWord w) :
    words (unwords ws) = ws := by
  induction ws with
  | nil => exact words_nil
  | cons w ws ih =>
    rw [List.forall_mem_cons] at h
    cases ws with
    | nil => exact words_of_isWord h.1
    | cons next rest =>
      rw [unwords_cons w (by simp), words_word_append h.1 (by decide), ih h.2]

/-- A blank behind a comma separates the words of joined pieces. -/
theorem words_joinWith_cons {c : Char} (hc : isBlank c = true) (piece : List Char)
    {pieces : List (List Char)} (h : pieces ≠ []) :
    words (joinWith [',', c] (piece :: pieces)) =
      words (piece ++ [',']) ++ words (joinWith [',', c] pieces) := by
  obtain ⟨next, rest, rfl⟩ := List.exists_cons_of_ne_nil h
  rw [joinWith_cons_cons, List.append_cons, List.append_assoc, List.singleton_append,
    words_append_cons_of_blank hc]

/-! ## Tidy texts -/

/-- A text is **tidy** when its blanks are single spaces between other characters. -/
structure Tidy (cs : List Char) : Prop where
  /-- Every blank is a space. -/
  spaces : ∀ c ∈ cs, isBlank c = true → c = ' '
  /-- No two spaces are neighbours. -/
  apart : Apart isBlank cs
  /-- The text does not start with a space. -/
  head : ∀ c ∈ cs.head?, isBlank c = false
  /-- The text does not end with a space. -/
  last : ∀ c ∈ cs.getLast?, isBlank c = false

namespace Tidy

/-- The empty text is tidy. -/
@[simp] theorem nil : Tidy [] := ⟨by simp, .nil, by simp, by simp⟩

/-- A text without blanks is tidy. -/
theorem of_forall_not {cs : List Char} (h : ∀ c ∈ cs, isBlank c = false) : Tidy cs where
  spaces c hc hblank := absurd hblank (by simp [h c hc])
  apart := .of_forall_not h
  head c hc := h c (List.mem_of_mem_head? hc)
  last c hc := h c (List.mem_of_mem_getLast? hc)

/-- A word is tidy. -/
theorem of_isWord {w : List Char} (h : IsWord w) : Tidy w := of_forall_not h.2

/-- Tidy texts may follow each other without a space. -/
theorem append {cs ds : List Char} (hcs : Tidy cs) (hds : Tidy ds) : Tidy (cs ++ ds) where
  spaces c hc := (List.mem_append.mp hc).elim (hcs.spaces c) (hds.spaces c)
  apart := hcs.apart.append hds.apart (.inl hcs.last)
  head c hc := by
    cases cs with
    | nil => exact hds.head c hc
    | cons b cs => exact hcs.head c hc
  last c hc := by
    rw [List.getLast?_append] at hc
    cases hlast : ds.getLast? with
    | none => exact hcs.last c (by simpa [hlast] using hc)
    | some d => exact hds.last c (by simpa [hlast] using hc)

/-- Tidy texts may follow each other with a space between them. -/
theorem append_space {cs ds : List Char} (hcs : Tidy cs) (hds : Tidy ds) (hcsne : cs ≠ [])
    (hdsne : ds ≠ []) : Tidy (cs ++ ' ' :: ds) where
  spaces c hc := by
    rw [List.mem_append, List.mem_cons] at hc
    rcases hc with hc | rfl | hc
    · exact hcs.spaces c hc
    · exact fun _ => rfl
    · exact hds.spaces c hc
  apart := by
    have hspace : Apart isBlank [' '] := List.isChain_singleton _
    exact hcs.apart.append (hspace.append hds.apart (.inr hds.head)) (.inl hcs.last)
  head c hc := by
    cases cs with
    | nil => exact absurd rfl hcsne
    | cons b cs => exact hcs.head c hc
  last c hc := by
    obtain ⟨d, ds, rfl⟩ := List.exists_cons_of_ne_nil hdsne
    rw [List.getLast?_append_of_ne_nil _ (by simp), List.getLast?_cons_cons] at hc
    exact hds.last c hc

/-- Trimming does not change a tidy text. -/
theorem trim {cs : List Char} (h : Tidy cs) : SchemaEvolution.trim cs = cs :=
  (trim_eq_self_iff cs).mpr ⟨h.head, h.last⟩

end Tidy

/-- Words one space apart are tidy. -/
theorem tidy_unwords {ws : List (List Char)} (h : ∀ w ∈ ws, IsWord w) : Tidy (unwords ws) := by
  induction ws with
  | nil => exact .nil
  | cons w ws ih =>
    rw [List.forall_mem_cons] at h
    cases ws with
    | nil => exact .of_isWord h.1
    | cons next rest =>
      rw [unwords_cons w (by simp)]
      exact (Tidy.of_isWord h.1).append_space (ih h.2) h.1.1
        (joinWith_ne_nil _ (by simp) fun v hv => (h.2 v hv).1)

/-- Tidy texts with a comma and a space between neighbours are tidy. -/
theorem Tidy.joined {pieces : List (List Char)} (h : ∀ piece ∈ pieces, piece ≠ [] ∧ Tidy piece) :
    Tidy (joinWith [',', ' '] pieces) := by
  induction pieces with
  | nil => exact .nil
  | cons piece pieces ih =>
    rw [List.forall_mem_cons] at h
    cases pieces with
    | nil => exact h.1.2
    | cons next rest =>
      have hcomma : Tidy [','] := .of_isWord (by decide)
      rw [joinWith_cons_cons, List.append_cons piece, List.append_assoc, List.singleton_append]
      exact (h.1.2.append hcomma).append_space (ih h.2) (by simp)
        (joinWith_ne_nil _ (by simp) fun other hother => (h.2 other hother).1)

/-- Collapsing a text makes it tidy. -/
theorem tidy_collapse (cs : List Char) : Tidy (collapse cs) :=
  tidy_unwords fun _ => isWord_of_mem_words

/-- A text that starts with no blank has a word. -/
theorem words_cons_ne_nil {c : Char} (h : isBlank c = false) (cs : List Char) :
    words (c :: cs) ≠ [] := by
  obtain ⟨w, ws, hws⟩ := List.exists_cons_of_ne_nil (List.splitOnP_ne_nil isBlank cs)
  simp [words, List.splitOnP_cons_eq_if_modifyHead, h, hws]

/-- Collapsing leaves a character that continues a word where it is. -/
theorem collapse_cons_cons_of_not_blank {c d : Char} (hc : isBlank c = false)
    (hd : isBlank d = false) (ds : List Char) :
    collapse (c :: d :: ds) = c :: collapse (d :: ds) := by
  obtain ⟨w, ws, hws⟩ := List.exists_cons_of_ne_nil (words_cons_ne_nil hd ds)
  rw [collapse, words_cons_of_not_blank hc]
  cases ws <;> simp [hd, collapse, hws, unwords]

/-- Collapsing leaves one space after a word that is followed by another. -/
theorem collapse_cons_cons_of_blank {c d : Char} (hc : isBlank c = false) (hd : isBlank d = true)
    {ds : List Char} (hds : words ds ≠ []) :
    collapse (c :: d :: ds) = c :: ' ' :: collapse ds := by
  obtain ⟨w, ws, hws⟩ := List.exists_cons_of_ne_nil hds
  rw [collapse, words_cons_of_not_blank hc]
  simp [hd, collapse, hws, unwords]

/-- A text that is tidy but for a space at its start loses that space. -/
theorem collapse_eq_trimStart {cs : List Char} (hspaces : ∀ c ∈ cs, isBlank c = true → c = ' ')
    (hapart : Apart isBlank cs) (hlast : ∀ c ∈ cs.getLast?, isBlank c = false) :
    collapse cs = trimStart cs := by
  induction cs with
  | nil => simp [collapse, unwords]
  | cons c cs ih =>
    rw [List.forall_mem_cons] at hspaces
    cases cs with
    | nil =>
      have hc : isBlank c = false := hlast c rfl
      simp [collapse, words_cons_of_not_blank hc, unwords, trimStart_cons, hc]
    | cons d ds =>
      have hrest := ih hspaces.2 hapart.tail (by simpa using hlast)
      by_cases hc : isBlank c = true
      · rw [collapse, words_cons_of_blank hc, ← collapse, hrest, trimStart_cons c, if_pos hc]
      · -- the text starts with a word: what matters is whether the word goes on
        have hcfalse : isBlank c = false := by simpa using hc
        rw [trimStart_cons c, if_neg hc]
        by_cases hd : isBlank d = true
        · obtain rfl : d = ' ' := hspaces.2 d List.mem_cons_self hd
          cases ds with
          | nil => exact absurd hd (by simp [hlast ' ' rfl])
          | cons e es =>
            -- the space is alone, so behind it another word starts
            have he : isBlank e = false := by
              simpa [hd] using List.rel_of_isChain_cons_cons hapart.tail
            rw [collapse, words_cons_of_blank hd, ← collapse, trimStart_cons, if_pos hd,
              trimStart_cons, if_neg (by simp [he])] at hrest
            rw [collapse_cons_cons_of_blank hcfalse hd (words_cons_ne_nil he es), hrest]
        · rw [trimStart_cons d, if_neg hd] at hrest
          rw [collapse_cons_cons_of_not_blank hcfalse (by simpa using hd), hrest]

/-- **Collapsing does not change a tidy text.** -/
theorem Tidy.collapse {cs : List Char} (h : Tidy cs) : SchemaEvolution.collapse cs = cs := by
  rw [collapse_eq_trimStart h.spaces h.apart h.last, trimStart_eq_self h.head]

end SchemaEvolution
