import Mathlib.Data.Prod.Lex
import Mathlib.Order.Monotone.Basic
import Mathlib.Order.Compare
import Mathlib.Data.Nat.Cast.Order.Basic
import Mathlib.Algebra.Order.Ring.Int

/-! # The order of doubles
Doubles that are numbers are ordered by their sign, then by their exponent, then by their mantissa.
The **rank** of a double says where it stands in this linear order, and two numbers compare as their
ranks do. A double that is not a number compares with nothing. -/

namespace SchemaEvolution

namespace Double

open Float.Model Float.Model.UnpackedFloat

/-- A double **is a number** unless it is the value that stands for the lack of one. -/
def IsNumber (value : Float) : Prop := value.isNaN = false

instance (value : Float) : Decidable (IsNumber value) :=
  inferInstanceAs (Decidable (value.isNaN = false))

/-! ## Ranks -/

/-- The rank of an unpacked double: its sign, its exponent and its mantissa. Infinite values lie
beyond all finite ones. What is not a number is ranked as zero, to no effect. -/
def unpackedRank : UnpackedFloat → ℤ ×ₗ ℤ ×ₗ ℤ
  | .notANumber => toLex (0, toLex (0, 0))
  | .infinity sign => toLex (sign.apply 2, toLex (0, 0))
  | .zero _ => toLex (0, toLex (0, 0))
  | .finite sign mantissa exponent _ =>
    toLex (sign.apply 1, toLex (sign.apply exponent, sign.apply mantissa))

/-- The **rank** of a double among all numbers. -/
def rank (value : Float) : ℤ ×ₗ ℤ ×ₗ ℤ := unpackedRank value.toModel.unpack

/-- Pairs compare by their first components, and by their second ones if those are equal. -/
theorem compare_toLex {α β : Type} [Ord α] [Ord β] (a c : α) (b d : β) :
    compare (toLex (a, b)) (toLex (c, d)) = (compare a c).then (compare b d) := by
  rw [Prod.Lex.compare_def]
  rfl

/-- Natural numbers compare as integers do. -/
theorem compare_natCast (m n : ℕ) : compare (m : ℤ) (n : ℤ) = compare m n := by
  rw [← cmp_eq_compare, ← cmp_eq_compare]
  exact Nat.strictMono_cast.cmp_map_eq m n

/-- Negative integers compare the other way round. -/
theorem compare_neg_neg (a b : ℤ) : compare (-a) (-b) = (compare a b).swap := by
  rw [Int.compare_swap, ← cmp_eq_compare, ← cmp_eq_compare]
  exact StrictAnti.cmp_map_eq (fun _ _ h => Int.neg_lt_neg h) a b

/-- **Two numbers compare as their ranks do.** -/
theorem compare_eq_some {a b : UnpackedFloat} (ha : a ≠ .notANumber) (hb : b ≠ .notANumber) :
    a.compare b = some (compare (unpackedRank a) (unpackedRank b)) := by
  -- the signs decide, unless both values are finite and have the same sign
  cases a with
  | notANumber => exact absurd rfl ha
  | infinity s =>
    cases b with
    | notANumber => exact absurd rfl hb
    | _ t => cases s <;> cases t <;> rfl
  | zero s =>
    cases b with
    | notANumber => exact absurd rfl hb
    | _ t => cases s <;> cases t <;> rfl
  | finite s m e hm =>
    cases b with
    | notANumber => exact absurd rfl hb
    | infinity t => cases s <;> cases t <;> rfl
    | zero t => cases s <;> cases t <;> rfl
    | finite t n f hn =>
      cases s with
      | negative =>
        cases t with
        | negative =>
          show some ((compare e f).then (compare m n)).swap =
            some (compare (toLex (-1, toLex (-e, -(m : ℤ)))) (toLex (-1, toLex (-f, -(n : ℤ)))))
          rw [compare_toLex, compare_toLex, compare_neg_neg e f, compare_neg_neg (m : ℤ) n,
            compare_natCast, Ordering.swap_then]
          rfl
        | positive => rfl
      | positive =>
        cases t with
        | negative => rfl
        | positive =>
          show some ((compare e f).then (compare m n)) =
            some (compare (toLex (1, toLex (e, (m : ℤ)))) (toLex (1, toLex (f, (n : ℤ)))))
          rw [compare_toLex, compare_toLex, compare_natCast]
          rfl

/-! ## Comparison -/

variable {a b c : Float}

/-- A double is a number when it does not unpack to the lack of one. -/
theorem isNumber_iff : IsNumber a ↔ a.toModel.unpack ≠ .notANumber := by
  show a.toModel.unpack.isNaN = false ↔ _
  cases a.toModel.unpack with
  | notANumber => exact ⟨fun h => (by cases h), fun h => absurd rfl h⟩
  | _ => exact ⟨fun _ h => (by cases h), fun _ => rfl⟩

/-- What something is smaller than is a number. -/
theorem isNumber_of_lt (h : a < b) : IsNumber b := by
  have hdecided : decide (a.toModel < b.toModel) = true := h
  rw [decide_eq_true_iff] at hdecided
  have hlt : a.toModel.unpack.compare b.toModel.unpack = some .lt := eq_of_beq hdecided
  rw [isNumber_iff]
  intro hnone
  rw [hnone] at hlt
  cases hunpacked : a.toModel.unpack <;> rw [hunpacked] at hlt <;> cases hlt

/-- **The order of numbers is the order of their ranks.** -/
theorem lt_iff_rank_lt (ha : IsNumber a) (hb : IsNumber b) : a < b ↔ rank a < rank b := by
  have hcompare := compare_eq_some (isNumber_iff.mp ha) (isNumber_iff.mp hb)
  show decide (a.toModel < b.toModel) = true ↔ _
  rw [decide_eq_true_iff]
  show (a.toModel.unpack.compare b.toModel.unpack == some .lt) = true ↔ _
  rw [hcompare, beq_iff_eq, Option.some.injEq, compare_lt_iff_lt, rank, rank]

/-- So it is where equality is allowed. -/
theorem le_iff_rank_le (ha : IsNumber a) (hb : IsNumber b) : a ≤ b ↔ rank a ≤ rank b := by
  have hcompare := compare_eq_some (isNumber_iff.mp ha) (isNumber_iff.mp hb)
  show decide (a.toModel ≤ b.toModel) = true ↔ _
  rw [decide_eq_true_iff]
  show (a.toModel.unpack.compare b.toModel.unpack).any Ordering.isLE = true ↔ _
  rw [hcompare, Option.any_some, rank, rank, ← compare_le_iff_le, Ordering.isLE_iff_ne_gt]

/-- Of two numbers the first is at most the second unless the second is smaller. -/
theorem not_lt_iff_le (ha : IsNumber a) (hb : IsNumber b) : ¬a < b ↔ b ≤ a := by
  rw [lt_iff_rank_lt ha hb, le_iff_rank_le hb ha, not_lt]

/-- A number is at most itself. -/
theorem IsNumber.le_refl (ha : IsNumber a) : a ≤ a :=
  (le_iff_rank_le ha ha).mpr le_rfl

/-- What is smaller is at most as large. -/
theorem le_of_lt (ha : IsNumber a) (hb : IsNumber b) (h : a < b) : a ≤ b :=
  (le_iff_rank_le ha hb).mpr ((lt_iff_rank_lt ha hb).mp h).le

/-- What is at most as large as something smaller is smaller. -/
theorem lt_of_le_of_lt (ha : IsNumber a) (hb : IsNumber b) (hc : IsNumber c) (hab : a ≤ b)
    (hbc : b < c) : a < c :=
  (lt_iff_rank_lt ha hc).mpr
    (((le_iff_rank_le ha hb).mp hab).trans_lt ((lt_iff_rank_lt hb hc).mp hbc))

/-- What misses a bound is smaller than what does not. The bound need not be a number. -/
theorem lt_of_lt_of_not_lt (ha : IsNumber a) (hc : IsNumber c) (hab : a < b) (hcb : ¬c < b) :
    a < c := by
  have hb := isNumber_of_lt hab
  rw [lt_iff_rank_lt ha hb] at hab
  rw [lt_iff_rank_lt hc hb, not_lt] at hcb
  exact (lt_iff_rank_lt ha hc).mpr (hab.trans_le hcb)

end Double

end SchemaEvolution
