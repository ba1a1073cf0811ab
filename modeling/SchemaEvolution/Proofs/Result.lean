/-! # Results of steps that can fail
Opening a sequence of steps, each of which gives a value or a cause of failure, and running steps on
a state in which they can get stuck. -/

namespace SchemaEvolution

variable {ε α β : Type}

/-- A sequence gives a value exactly when both of its steps do. -/
theorem bind_eq_ok_iff (first : Except ε α) (next : α → Except ε β) (value : β) :
    (first >>= next) = .ok value ↔ ∃ middle, first = .ok middle ∧ next middle = .ok value := by
  cases first with
  | error cause => exact ⟨fun h => (by cases h), fun ⟨_, h, _⟩ => (by cases h)⟩
  | ok middle => exact ⟨fun h => ⟨middle, rfl, h⟩, fun ⟨_, h, hnext⟩ => by cases h; exact hnext⟩

/-- A sequence fails exactly when its first step fails or its second one does. -/
theorem bind_eq_error_iff (first : Except ε α) (next : α → Except ε β) (cause : ε) :
    (first >>= next) = .error cause ↔
      first = .error cause ∨ ∃ middle, first = .ok middle ∧ next middle = .error cause := by
  cases first with
  | error given =>
    refine ⟨fun h => .inl (Except.error.inj h ▸ rfl), ?_⟩
    rintro (h | ⟨_, h, -⟩)
    · exact Except.error.inj h ▸ rfl
    · cases h
  | ok middle =>
    refine ⟨fun h => .inr ⟨middle, rfl, h⟩, ?_⟩
    rintro (h | ⟨_, h, hnext⟩)
    · cases h
    · cases h
      exact hnext

/-- Returning a value gives that value. -/
theorem pure_eq_ok_iff (given value : α) : (pure given : Except ε α) = .ok value ↔ given = value :=
  ⟨fun h => (by cases h; rfl), fun h => h ▸ rfl⟩

/-- Returning a value does not fail. -/
theorem pure_ne_error (value : α) (cause : ε) : (pure value : Except ε α) ≠ .error cause :=
  fun h => by cases h

/-- Naming the cause of a failure otherwise changes no success. -/
theorem mapError_eq_ok_iff {δ : Type} (f : ε → δ) (result : Except ε α) (value : α) :
    result.mapError f = .ok value ↔ result = .ok value := by
  cases result with
  | error given => exact ⟨fun h => (by cases h), fun h => (by cases h)⟩
  | ok given =>
    exact ⟨fun h => congrArg Except.ok (Except.ok.inj h), fun h => Except.ok.inj h ▸ rfl⟩

/-- A failure whose cause is named otherwise is a failure. -/
theorem mapError_eq_error_iff {δ : Type} (f : ε → δ) (result : Except ε α) (cause : δ) :
    result.mapError f = .error cause ↔ ∃ given, result = .error given ∧ f given = cause := by
  cases result with
  | error given =>
    refine ⟨fun h => ⟨given, rfl, Except.error.inj h⟩, ?_⟩
    rintro ⟨_, h, rfl⟩
    exact Except.error.inj h ▸ rfl
  | ok value => exact ⟨fun h => (by cases h), fun ⟨_, h, _⟩ => (by cases h)⟩

/-- A list is worked through when every element of it gives a value. -/
theorem mapM_eq_ok_map {f : α → Except ε β} {g : α → β} {xs : List α}
    (h : ∀ x ∈ xs, f x = .ok (g x)) : xs.mapM f = .ok (xs.map g) := by
  induction xs with
  | nil => rfl
  | cons x xs ih =>
    rw [List.forall_mem_cons] at h
    rw [List.mapM_cons, h.1, ih h.2]
    rfl

/-- A list that is worked through gives as many values as it has elements. -/
theorem length_of_mapM_eq_ok {f : α → Except ε β} {xs : List α} {ys : List β}
    (h : xs.mapM f = .ok ys) : ys.length = xs.length := by
  induction xs generalizing ys with
  | nil =>
    obtain rfl := Except.ok.inj h
    rfl
  | cons x xs ih =>
    rw [List.mapM_cons] at h
    simp only [bind_eq_ok_iff, pure_eq_ok_iff] at h
    obtain ⟨y, -, rest, hrest, rfl⟩ := h
    rw [List.length_cons, List.length_cons, ih hrest]

/-- A value that comes of working through a list comes of one of its elements. -/
theorem exists_of_mem_of_mapM_eq_ok {f : α → Except ε β} {xs : List α} {ys : List β}
    (h : xs.mapM f = .ok ys) {y : β} (hy : y ∈ ys) : ∃ x ∈ xs, f x = .ok y := by
  induction xs generalizing ys with
  | nil =>
    obtain rfl := Except.ok.inj h
    cases hy
  | cons x xs ih =>
    rw [List.mapM_cons] at h
    simp only [bind_eq_ok_iff, pure_eq_ok_iff] at h
    obtain ⟨first, hfirst, rest, hrest, rfl⟩ := h
    rcases List.mem_cons.mp hy with rfl | hmem
    · exact ⟨x, List.mem_cons_self, hfirst⟩
    · obtain ⟨found, hfound, hvalue⟩ := ih hrest hmem
      exact ⟨found, List.mem_cons_of_mem x hfound, hvalue⟩

/-- A run over steps that leave every state as it is ends where it began. -/
theorem foldlM_of_inert {σ : Type} {execute : σ → α → Option σ} {steps : List α}
    (h : ∀ step ∈ steps, ∀ state, execute state step = some state) (state : σ) :
    steps.foldlM execute state = some state := by
  induction steps with
  | nil => rfl
  | cons step steps ih =>
    rw [List.forall_mem_cons] at h
    rw [List.foldlM_cons, h.1]
    exact ih h.2

end SchemaEvolution
