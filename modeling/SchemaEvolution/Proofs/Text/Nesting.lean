import SchemaEvolution.Proofs.Text.Words
import SchemaEvolution.Text.Nesting

/-! # Well-nested texts
A text is **well nested** when each parenthesis that it closes was opened in it and each one that it
opens is closed. Such a text can stand anywhere without changing what is outside parentheses: it is
passed over as a whole by the search for a closing parenthesis, and it is cut into the same pieces
wherever it stands. -/

namespace SchemaEvolution

/-! ## Open parentheses -/

/-- Blanks leave the depth as it is. -/
theorem depthAfter_of_blank {c : Char} (hc : isBlank c = true) (depth : Nat) :
    depthAfter depth c = depth :=
  depthAfter_of_ne (ne_of_isBlank hc (by decide)) (ne_of_isBlank hc (by decide)) depth

/-- A parenthesis that is closed was opened, so the depth changes alike whatever is open besides. -/
theorem depthAfter_add {depth : Nat} {c : Char} (h : ¬(c = ')' ∧ depth = 0)) (more : Nat) :
    depthAfter (depth + more) c = depthAfter depth c + more := by
  unfold depthAfter
  split_ifs <;> grind

/-- The number of open parentheses after a character; `none` when it closes one that is not open. -/
def openAfterChar? (depth : Nat) (c : Char) : Option Nat :=
  if c = ')' ∧ depth = 0 then none else some (depthAfter depth c)

/-- The number of open parentheses after a text; `none` when it closes one that is not open. -/
def openAfter? (depth : Nat) (cs : List Char) : Option Nat := cs.foldlM openAfterChar? depth

/-- An empty text leaves open what was open. -/
@[simp] theorem openAfter?_nil (depth : Nat) : openAfter? depth [] = some depth := rfl

/-- A text closes no more than was opened when its first character does not and the rest does not.
-/
theorem openAfter?_cons_eq_some_iff (depth : Nat) (c : Char) (cs : List Char) (final : Nat) :
    openAfter? depth (c :: cs) = some final ↔
      ¬(c = ')' ∧ depth = 0) ∧ openAfter? (depthAfter depth c) cs = some final := by
  simp only [openAfter?, List.foldlM_cons, openAfterChar?]
  split <;> simp_all

/-- Parentheses are counted through one text and then through the next. -/
theorem openAfter?_append (depth : Nat) (cs ds : List Char) :
    openAfter? depth (cs ++ ds) = (openAfter? depth cs).bind (openAfter? · ds) :=
  List.foldlM_append

/-- What was open before a text is open after it too. -/
theorem openAfter?_add {depth final : Nat} {cs : List Char} (h : openAfter? depth cs = some final)
    (more : Nat) : openAfter? (depth + more) cs = some (final + more) := by
  induction cs generalizing depth with
  | nil =>
    obtain rfl := Option.some.inj h
    rfl
  | cons c cs ih =>
    rw [openAfter?_cons_eq_some_iff] at h ⊢
    rw [depthAfter_add h.1]
    exact ⟨fun hclosed => h.1 ⟨hclosed.1, by omega⟩, ih h.2⟩

/-- The depth that counts for cutting is the number of open parentheses. -/
theorem foldl_depthAfter {depth final : Nat} {cs : List Char}
    (h : openAfter? depth cs = some final) : cs.foldl depthAfter depth = final := by
  induction cs generalizing depth with
  | nil => exact Option.some.inj h
  | cons c cs ih => exact ih ((openAfter?_cons_eq_some_iff _ _ _ _).mp h).2

/-- Opening and closing parentheses add up. -/
theorem count_parens {depth final : Nat} {cs : List Char} (h : openAfter? depth cs = some final) :
    depth + cs.count '(' = final + cs.count ')' := by
  induction cs generalizing depth with
  | nil => simpa using h
  | cons c cs ih =>
    obtain ⟨hclosed, hrest⟩ := (openAfter?_cons_eq_some_iff _ _ _ _).mp h
    have hcount := ih hrest
    unfold depthAfter at hcount
    simp only [List.count_cons, beq_iff_eq]
    split_ifs at hcount ⊢ <;> grind

/-- An opening parenthesis is passed over, one level further in. -/
@[simp] theorem insideParens?_open (depth : Nat) (cs : List Char) :
    insideParens? depth ('(' :: cs) = (insideParens? (depth + 1) cs).map ('(' :: ·) := by
  cases depth <;> rfl

/-- A closing parenthesis at the outermost level ends the text in parentheses. -/
@[simp] theorem insideParens?_close_zero (cs : List Char) : insideParens? 0 (')' :: cs) = some [] :=
  rfl

/-- A closing parenthesis further in is passed over, one level out. -/
@[simp] theorem insideParens?_close_succ (depth : Nat) (cs : List Char) :
    insideParens? (depth + 1) (')' :: cs) = (insideParens? depth cs).map (')' :: ·) := rfl

/-- Any other character is passed over. -/
theorem insideParens?_cons_of_ne {c : Char} (hopen : c ≠ '(') (hclose : c ≠ ')') (depth : Nat)
    (cs : List Char) : insideParens? depth (c :: cs) = (insideParens? depth cs).map (c :: ·) := by
  cases depth <;> simp [insideParens?, hopen, hclose]

/-- The partner of a parenthesis is looked for behind a text that closes only what it opens. -/
theorem insideParens?_append {depth final : Nat} {cs : List Char}
    (h : openAfter? depth cs = some final) (ds : List Char) :
    insideParens? depth (cs ++ ds) = (insideParens? final ds).map (cs ++ ·) := by
  induction cs generalizing depth with
  | nil =>
    obtain rfl := Option.some.inj h
    simp
  | cons c cs ih =>
    obtain ⟨hclosed, hrest⟩ := (openAfter?_cons_eq_some_iff _ _ _ _).mp h
    rw [List.cons_append]
    by_cases hopen : c = '('
    · subst hopen
      rw [depthAfter_open] at hrest
      rw [insideParens?_open, ih hrest, Option.map_map]
      rfl
    · by_cases hclose : c = ')'
      · subst hclose
        cases depth with
        -- the text itself closes only what it opened
        | zero => exact absurd ⟨rfl, rfl⟩ hclosed
        | succ depth =>
          rw [depthAfter_close, Nat.add_sub_cancel] at hrest
          rw [insideParens?_close_succ, ih hrest, Option.map_map]
          rfl
      · rw [depthAfter_of_ne hopen hclose] at hrest
        rw [insideParens?_cons_of_ne hopen hclose, ih hrest, Option.map_map]
        rfl

/-! ## Well-nested texts -/

/-- A text is **well nested** when it closes what it opens and nothing else. -/
def WellNested (cs : List Char) : Prop := openAfter? 0 cs = some 0

instance (cs : List Char) : Decidable (WellNested cs) :=
  inferInstanceAs (Decidable (openAfter? 0 cs = some 0))

namespace WellNested

variable {cs ds : List Char}

/-- The empty text is well nested. -/
@[simp] theorem nil : WellNested [] := rfl

/-- A well-nested text leaves the number of open parentheses as it is. -/
theorem openAfter? (h : WellNested cs) (depth : Nat) :
    SchemaEvolution.openAfter? depth cs = some depth := by
  simpa using openAfter?_add h depth

/-- A well-nested text leaves the depth as it is. -/
theorem foldl_depthAfter (h : WellNested cs) (depth : Nat) : cs.foldl depthAfter depth = depth :=
  SchemaEvolution.foldl_depthAfter (h.openAfter? depth)

/-- Well-nested texts put together are well nested. -/
theorem append (hcs : WellNested cs) (hds : WellNested ds) : WellNested (cs ++ ds) := by
  rw [WellNested, openAfter?_append, hcs, Option.bind_some, hds]

/-- A front of a well-nested text closes nothing that it does not open. -/
theorem exists_openAfter? (h : WellNested (cs ++ ds)) :
    ∃ depth, SchemaEvolution.openAfter? 0 cs = some depth := by
  rw [WellNested, openAfter?_append] at h
  obtain ⟨depth, hdepth, -⟩ := Option.bind_eq_some_iff.mp h
  exact ⟨depth, hdepth⟩

/-- A text without parentheses is well nested. -/
theorem of_forall_ne (h : ∀ c ∈ cs, c ≠ '(' ∧ c ≠ ')') : WellNested cs := by
  induction cs with
  | nil => exact nil
  | cons c cs ih =>
    rw [List.forall_mem_cons] at h
    rw [WellNested, openAfter?_cons_eq_some_iff, depthAfter_of_ne h.1.1 h.1.2]
    exact ⟨fun hclosed => h.1.2 hclosed.1, ih h.2⟩

/-- Blanks open and close nothing. -/
theorem of_blanks (h : ∀ c ∈ cs, isBlank c = true) : WellNested cs :=
  of_forall_ne fun c hc =>
    ⟨ne_of_isBlank (h c hc) (by decide), ne_of_isBlank (h c hc) (by decide)⟩

/-- A character that is no parenthesis may stand anywhere. -/
theorem cons {c : Char} (hopen : c ≠ '(') (hclose : c ≠ ')') (h : WellNested cs) :
    WellNested (c :: cs) := by
  have hc : WellNested [c] := of_forall_ne (by simp [hopen, hclose])
  exact hc.append h

/-- A text in parentheses. -/
theorem enclosed (h : WellNested cs) : WellNested ('(' :: (cs ++ [')'])) := by
  rw [WellNested, openAfter?_cons_eq_some_iff, openAfter?_append]
  refine ⟨by simp, ?_⟩
  rw [depthAfter_open, h.openAfter?, Option.bind_some]
  rfl

/-- As many parentheses are opened as are closed. -/
theorem count_eq (h : WellNested cs) : cs.count '(' = cs.count ')' := by
  simpa using count_parens h

/-- A well-nested text is what stands before the closing parenthesis that follows it. -/
theorem insideParens? (h : WellNested cs) (ds : List Char) :
    SchemaEvolution.insideParens? 0 (cs ++ ')' :: ds) = some cs := by
  rw [insideParens?_append h, insideParens?_close_zero, Option.map_some, List.append_nil]

end WellNested

/-- Trimming takes no parenthesis away, so it keeps a text well nested and makes none so. -/
theorem wellNested_trim_iff (cs : List Char) : WellNested (trim cs) ↔ WellNested cs := by
  obtain ⟨front, back, hcs, hfront, hback⟩ := exists_blanks_trim cs
  have hlast : ∀ depth, openAfter? depth back = some depth :=
    (WellNested.of_blanks hback).openAfter?
  have hopen : openAfter? 0 cs = openAfter? 0 (trim cs) := by
    conv_lhs => rw [hcs, openAfter?_append, openAfter?_append, WellNested.of_blanks hfront]
    simp [hlast]
  rw [WellNested, WellNested, hopen]

/-! ## Separators outside parentheses -/

/-- Whether a separator stands outside parentheses, when `depth` parentheses are open at the start
of the text. -/
def hasOutside (separator : Char) : Nat → List Char → Bool
  | _, [] => false
  | depth, c :: cs =>
    (c == separator && depth == 0) || hasOutside separator (depthAfter depth c) cs

variable {separator : Char}

/-- An empty text has no separator. -/
@[simp] theorem hasOutside_nil (separator : Char) (depth : Nat) :
    hasOutside separator depth [] = false := rfl

/-- A separator outside parentheses is in the first text, or in the second at the depth that the
first leaves. -/
theorem hasOutside_append (separator : Char) (depth : Nat) (cs ds : List Char) :
    hasOutside separator depth (cs ++ ds) =
      (hasOutside separator depth cs || hasOutside separator (cs.foldl depthAfter depth) ds) := by
  induction cs generalizing depth with
  | nil => simp
  | cons c cs ih => simp [hasOutside, ih, Bool.or_assoc]

/-- A text without the separator has none outside parentheses. -/
theorem hasOutside_of_not_mem {cs : List Char} (h : separator ∉ cs) (depth : Nat) :
    hasOutside separator depth cs = false := by
  induction cs generalizing depth with
  | nil => rfl
  | cons c cs ih =>
    rw [List.mem_cons, not_or] at h
    simp [hasOutside, Ne.symm h.1, ih h.2]

/-- In parentheses nothing is outside. -/
theorem hasOutside_of_open {depth final : Nat} {cs : List Char}
    (h : openAfter? depth cs = some final) (separator : Char) :
    hasOutside separator (depth + 1) cs = false := by
  induction cs generalizing depth with
  | nil => rfl
  | cons c cs ih =>
    obtain ⟨hclosed, hrest⟩ := (openAfter?_cons_eq_some_iff _ _ _ _).mp h
    simp [hasOutside, depthAfter_add hclosed, ih hrest]

/-- A text in parentheses has no separator outside them, unless the separator opens them. -/
theorem WellNested.hasOutside_enclosed {cs : List Char} (h : WellNested cs)
    (hopen : '(' ≠ separator) : hasOutside separator 0 ('(' :: (cs ++ [')'])) = false := by
  have hinside := hasOutside_of_open h separator
  simp [hasOutside, hasOutside_append, h.foldl_depthAfter, hinside, hopen]

/-- A separator is outside parentheses where nothing is open behind the text in front of it. -/
theorem hasOutside_eq_true_iff {depth : Nat} :
    hasOutside separator depth cs = true ↔
      ∃ front back, cs = front ++ separator :: back ∧ front.foldl depthAfter depth = 0 := by
  induction cs generalizing depth with
  | nil => simp
  | cons c cs ih =>
    rw [hasOutside, Bool.or_eq_true, Bool.and_eq_true, beq_iff_eq, beq_iff_eq, ih]
    constructor
    · rintro (⟨rfl, rfl⟩ | ⟨front, back, rfl, hdepth⟩)
      · exact ⟨[], cs, rfl, rfl⟩
      · exact ⟨c :: front, back, rfl, hdepth⟩
    · rintro ⟨front, back, hcs, hdepth⟩
      cases front with
      | nil =>
        obtain ⟨rfl, -⟩ := List.cons.inj hcs
        exact .inl ⟨rfl, hdepth⟩
      | cons d front =>
        obtain ⟨rfl, rfl⟩ := List.cons.inj hcs
        exact .inr ⟨front, back, rfl, hdepth⟩

/-- Blanks at the ends of a text are no separators outside parentheses. -/
theorem hasOutside_trim (hseparator : isBlank separator = false) (depth : Nat) (cs : List Char) :
    hasOutside separator depth (trim cs) = hasOutside separator depth cs := by
  have hblanks : ∀ blanks : List Char, (∀ c ∈ blanks, isBlank c = true) → ∀ depth,
      hasOutside separator depth blanks = false :=
    fun blanks h => hasOutside_of_not_mem fun hmem => ne_of_isBlank (h _ hmem) hseparator rfl
  obtain ⟨front, back, hcs, hfront, hback⟩ := exists_blanks_trim cs
  conv_rhs =>
    rw [hcs, hasOutside_append, hasOutside_append, hblanks front hfront, hblanks back hback,
      (WellNested.of_blanks hfront).foldl_depthAfter, Bool.false_or, Bool.or_false]

/-! ## Pieces and fragments -/

/-- What has no separator outside parentheses belongs to the first piece. -/
theorem piecesOutside_append {depth : Nat} {cs : List Char}
    (h : hasOutside separator depth cs = false) (ds : List Char) :
    piecesOutside separator depth (cs ++ ds) =
      (piecesOutside separator (cs.foldl depthAfter depth) ds).modifyHead (cs ++ ·) := by
  induction cs generalizing depth with
  | nil => cases h : piecesOutside separator depth ds <;> simp [h]
  | cons c cs ih =>
    rw [hasOutside, Bool.or_eq_false_iff] at h
    have hcut : ¬(c = separator ∧ depth = 0) := by simpa using h.1
    rw [List.cons_append, piecesOutside_cons, if_neg hcut, ih h.2, List.modifyHead_modifyHead]
    rfl

/-- A separator outside parentheses cuts a text into the pieces before it and those behind it. -/
theorem piecesOutside_append_cons (hopen : separator ≠ '(') {depth : Nat} {cs : List Char}
    (h : cs.foldl depthAfter depth = 0) (ds : List Char) :
    piecesOutside separator depth (cs ++ separator :: ds) =
      piecesOutside separator depth cs ++ piecesOutside separator 0 ds := by
  induction cs generalizing depth with
  | nil =>
    obtain rfl : depth = 0 := h
    rw [List.nil_append, piecesOutside_cons, if_pos ⟨rfl, rfl⟩, piecesOutside_nil,
      List.singleton_append]
  | cons c cs ih =>
    rw [List.foldl_cons] at h
    rw [List.cons_append, piecesOutside_cons, piecesOutside_cons]
    by_cases hcut : c = separator ∧ depth = 0
    · -- the separator does not change the depth
      obtain ⟨rfl, rfl⟩ := hcut
      have hdepth : depthAfter 0 c = 0 := by simp [depthAfter, hopen]
      rw [hdepth] at h
      rw [if_pos ⟨rfl, rfl⟩, if_pos ⟨rfl, rfl⟩, ih h, List.cons_append]
    · rw [if_neg hcut, if_neg hcut, ih h]
      obtain ⟨first, rest, hpieces⟩ :=
        List.exists_cons_of_ne_nil (piecesOutside_ne_nil separator (depthAfter depth c) cs)
      rw [hpieces, List.cons_append, List.modifyHead_cons, List.modifyHead_cons, List.cons_append]

/-- A character that is neither a separator nor a parenthesis goes to the last piece. -/
theorem exists_piecesOutside_concat {c : Char} (hne : c ≠ separator) (depth : Nat)
    (cs : List Char) :
    ∃ front last, piecesOutside separator depth cs = front ++ [last] ∧
      piecesOutside separator depth (cs ++ [c]) = front ++ [last ++ [c]] := by
  induction cs generalizing depth with
  | nil => exact ⟨[], [], rfl, by simp [piecesOutside_cons, hne]⟩
  | cons d cs ih =>
    rw [List.cons_append, piecesOutside_cons, piecesOutside_cons]
    by_cases hcut : d = separator ∧ depth = 0
    · obtain ⟨front, last, hpieces, hlonger⟩ := ih depth
      rw [if_pos hcut, if_pos hcut, hpieces, hlonger]
      exact ⟨[] :: front, last, rfl, rfl⟩
    · obtain ⟨front, last, hpieces, hlonger⟩ := ih (depthAfter depth d)
      rw [if_neg hcut, if_neg hcut, hpieces, hlonger]
      cases front with
      | nil => exact ⟨[], d :: last, rfl, rfl⟩
      | cons first rest => exact ⟨(d :: first) :: rest, last, rfl, rfl⟩

/-- Nothing but separators is lost between pieces: joined with the separator they are the text. -/
theorem joinWith_piecesOutside (separator : Char) (depth : Nat) (cs : List Char) :
    joinWith [separator] (piecesOutside separator depth cs) = cs := by
  induction cs generalizing depth with
  | nil => rfl
  | cons c cs ih =>
    rw [piecesOutside_cons]
    by_cases hcut : c = separator ∧ depth = 0
    · obtain ⟨first, rest, hpieces⟩ :=
        List.exists_cons_of_ne_nil (piecesOutside_ne_nil separator depth cs)
      have hcs := ih depth
      rw [hpieces] at hcs
      rw [if_pos hcut, hpieces, joinWith_cons_cons, hcs, hcut.1]
      rfl
    · obtain ⟨first, rest, hpieces⟩ :=
        List.exists_cons_of_ne_nil (piecesOutside_ne_nil separator (depthAfter depth c) cs)
      have hcs := ih (depthAfter depth c)
      rw [hpieces] at hcs
      rw [if_neg hcut, hpieces, List.modifyHead_cons]
      -- the character is in front of the first piece, so it is in front of the joined text
      cases rest with
      | nil => exact congrArg (c :: ·) hcs
      | cons next rest => exact congrArg (c :: ·) hcs

/-- A **fragment** is what cutting at a separator leaves whole: it is well nested, trimmed and not
empty, and no separator is outside its parentheses. -/
structure IsFragment (separator : Char) (cs : List Char) : Prop where
  /-- The fragment is not empty. -/
  ne_nil : cs ≠ []
  /-- The fragment has no blanks at its ends. -/
  trimmed : trim cs = cs
  /-- The fragment is well nested. -/
  nested : WellNested cs
  /-- The fragment has no separator outside parentheses. -/
  uncut : hasOutside separator 0 cs = false

/-- The parts of being a fragment, as they are decided. -/
theorem isFragment_iff (separator : Char) (cs : List Char) :
    IsFragment separator cs ↔
      cs ≠ [] ∧ trim cs = cs ∧ WellNested cs ∧ hasOutside separator 0 cs = false :=
  ⟨fun h => ⟨h.ne_nil, h.trimmed, h.nested, h.uncut⟩,
    fun ⟨hne, htrimmed, hnested, huncut⟩ => ⟨hne, htrimmed, hnested, huncut⟩⟩

instance (separator : Char) (cs : List Char) : Decidable (IsFragment separator cs) :=
  decidable_of_iff _ (isFragment_iff separator cs).symm

/-- A fragment and a separator in front of a text. -/
theorem IsFragment.splitOutside_append {cs : List Char} (h : IsFragment separator cs)
    (ds : List Char) :
    splitOutside separator (cs ++ separator :: ds) = cs :: splitOutside separator ds := by
  rw [splitOutside, piecesOutside_append h.uncut, h.nested.foldl_depthAfter, piecesOutside_cons,
    if_pos ⟨rfl, rfl⟩]
  simp [splitOutside, h.trimmed, h.ne_nil]

/-- A text without separators outside parentheses is one fragment. -/
theorem splitOutside_eq_singleton {cs : List Char} (h : hasOutside separator 0 cs = false)
    (hne : trim cs ≠ []) : splitOutside separator cs = [trim cs] := by
  have hpieces := piecesOutside_append h []
  rw [List.append_nil] at hpieces
  rw [splitOutside, hpieces]
  simp [hne]

/-- A fragment is its own only fragment. -/
theorem IsFragment.splitOutside_eq (h : IsFragment separator cs) :
    splitOutside separator cs = [cs] := by
  have hne : trim cs ≠ [] := by
    rw [h.trimmed]
    exact h.ne_nil
  rw [splitOutside_eq_singleton h.uncut hne, h.trimmed]

/-- A blank at the start changes no fragment. -/
theorem splitOutside_cons_of_blank {c : Char} (hc : isBlank c = true) (hne : c ≠ separator)
    (cs : List Char) : splitOutside separator (c :: cs) = splitOutside separator cs := by
  rw [splitOutside, piecesOutside_cons, if_neg (fun h => hne h.1), depthAfter_of_blank hc,
    splitOutside]
  -- the blank goes to the first piece, where it is trimmed
  cases hpieces : piecesOutside separator 0 cs with
  | nil => rfl
  | cons first rest => simp [trim_cons_of_blank hc]

/-- A blank at the end changes no fragment. -/
theorem splitOutside_concat_of_blank {c : Char} (hc : isBlank c = true) (hne : c ≠ separator)
    (cs : List Char) : splitOutside separator (cs ++ [c]) = splitOutside separator cs := by
  obtain ⟨front, last, hpieces, hlonger⟩ := exists_piecesOutside_concat hne 0 cs
  rw [splitOutside, splitOutside, hpieces, hlonger]
  simp only [List.map_append, List.map_cons, List.map_nil, trim_concat_of_blank hc]

/-- Blanks at the start change no fragment. -/
theorem splitOutside_blanks_append (hseparator : isBlank separator = false) {blanks : List Char}
    (h : ∀ c ∈ blanks, isBlank c = true) (cs : List Char) :
    splitOutside separator (blanks ++ cs) = splitOutside separator cs := by
  induction blanks with
  | nil => rfl
  | cons c blanks ih =>
    rw [List.forall_mem_cons] at h
    rw [List.cons_append, splitOutside_cons_of_blank h.1 (ne_of_isBlank h.1 hseparator), ih h.2]

/-- Blanks at the end change no fragment. -/
theorem splitOutside_append_blanks (hseparator : isBlank separator = false) {blanks : List Char}
    (h : ∀ c ∈ blanks, isBlank c = true) (cs : List Char) :
    splitOutside separator (cs ++ blanks) = splitOutside separator cs := by
  induction blanks using List.reverseRecOn with
  | nil => rw [List.append_nil]
  | append_singleton blanks c ih =>
    rw [List.forall_mem_append, List.forall_mem_singleton] at h
    rw [← List.append_assoc, splitOutside_concat_of_blank h.2 (ne_of_isBlank h.2 hseparator),
      ih h.1]

/-- Well-nested texts on the two sides of a separator are cut separately. -/
theorem WellNested.splitOutside_append_cons (hopen : separator ≠ '(') {cs : List Char}
    (h : WellNested cs) (ds : List Char) :
    splitOutside separator (cs ++ separator :: ds) =
      splitOutside separator cs ++ splitOutside separator ds := by
  rw [splitOutside, piecesOutside_append_cons hopen (h.foldl_depthAfter 0), List.map_append,
    List.filter_append, splitOutside, splitOutside]

/-- An empty text has no fragments. -/
@[simp] theorem splitOutside_nil (separator : Char) : splitOutside separator [] = [] := by
  simp [splitOutside]

end SchemaEvolution
