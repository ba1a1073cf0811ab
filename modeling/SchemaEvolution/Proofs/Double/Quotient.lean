import SchemaEvolution.Proofs.Double.Order
import SchemaEvolution.Plan.Similarity

/-! # Quotients of counts
A positive count is a **normal** double: rounding it leaves 53 bits and an exponent far from the
ends of the range, and packing it makes it neither infinite nor zero. A quotient of two counts is
therefore a number, and so is every similarity. -/

namespace SchemaEvolution

namespace Double

open Float.Model Float.Model.UnpackedFloat

/-! ## Packing -/

/-- An unpacked double is **proper** when it is finite and not zero. -/
def IsProper : UnpackedFloat → Prop
  | .finite .. => True
  | _ => False

/-- Below the highest exponent there are numbers only, and all of them are finite. Above the lowest
exponent none of them is zero. -/
theorem unpack_packComponents (s : Sign) {e : BitVec 11} (m : BitVec 52) (he : e ≠ -1#11) :
    unpack .binary64 (packComponents .binary64 s e m) ≠ .notANumber ∧
      (e ≠ 0#11 → IsProper (unpack .binary64 (packComponents .binary64 s e m))) := by
  have hexponent : unpackExponent (packComponents .binary64 s e m) = e :=
    unpackExponent_packComponents
  generalize packComponents .binary64 s e m = bits at hexponent ⊢
  subst hexponent
  unfold UnpackedFloat.unpack
  dsimp only
  rw [if_neg he]
  -- the lowest exponent stands for zero and the subnormal numbers
  by_cases hlowest : unpackExponent bits = 0#11
  · rw [if_pos hlowest]
    refine ⟨?_, fun h => absurd hlowest h⟩
    by_cases hzero : unpackMantissa bits = 0#52
    · rw [dif_pos hzero]
      exact fun h => by cases h
    · rw [dif_neg hzero]
      exact fun h => by cases h
  · rw [if_neg hlowest]
    exact ⟨fun h => (by cases h), fun _ => trivial⟩

/-- A biased exponent within the range is not the highest one, and not the lowest unless it is
zero. -/
theorem ofNat_exponent {n : Nat} (h : n + 1 < 2 ^ 11) :
    BitVec.ofNat 11 n ≠ -1#11 ∧ (0 < n → BitVec.ofNat 11 n ≠ 0#11) := by
  have hvalue : (BitVec.ofNat 11 n).toNat = n := by
    rw [BitVec.toNat_ofNat, Nat.mod_eq_of_lt (by omega)]
  constructor
  · intro hhighest
    have hsame := congrArg BitVec.toNat hhighest
    have htop : (-1#11).toNat = 2047 := by decide
    rw [hvalue, htop] at hsame
    omega
  · intro hpos hlowest
    have hsame := congrArg BitVec.toNat hlowest
    have hzero : (0#11).toNat = 0 := by decide
    rw [hvalue, hzero] at hsame
    omega

/-- Packing makes no number out of what is none. -/
theorem unpack_pack_ne_notANumber {value : UnpackedFloat} (h : value ≠ .notANumber) :
    (Float.Model.pack value).unpack ≠ .notANumber := by
  cases value with
  | notANumber => exact absurd rfl h
  | infinity s => cases s <;> exact fun hnone => by cases hnone
  | zero s => cases s <;> exact fun hnone => by cases hnone
  | finite s m e hm =>
    show unpack .binary64 (UnpackedFloat.pack .binary64 (.finite s m e hm)) ≠ .notANumber
    unfold UnpackedFloat.pack
    dsimp only
    split
    · -- an exponent beyond the range gives the infinite value
      cases s <;> exact fun hnone => by cases hnone
    · next hbound =>
      have hexponent := ofNat_exponent (Nat.lt_of_not_le hbound)
      split
      · exact (unpack_packComponents s _ hexponent.1).1
      · exact (unpack_packComponents s _ (by decide)).1

/-- An unpacked double is **normal** when its mantissa has all its bits and its exponent is within
the range. -/
def IsNormal : UnpackedFloat → Prop
  | .finite _ mantissa exponent _ => mantissa.log2 = 52 ∧ -1074 ≤ exponent ∧ exponent ≤ 971
  | _ => False

/-- A normal double stays finite and does not become zero by packing. -/
theorem isProper_unpack_pack {value : UnpackedFloat} (h : IsNormal value) :
    IsProper (Float.Model.pack value).unpack := by
  cases value with
  | finite s m e hm =>
    obtain ⟨hbits, hlow, hhigh⟩ := h
    show IsProper (unpack .binary64 (UnpackedFloat.pack .binary64 (.finite s m e hm)))
    have hbias : (e + Format.binary64.exponentBias + Format.binary64.mantissaBitsWithoutImplicit) =
        e + 1075 := by
      show e + (2 ^ (11 - 1) - 1 : Nat) + (52 : Nat) = e + 1075
      omega
    have hexponent := ofNat_exponent (n := (e + 1075).toNat) (by omega)
    unfold UnpackedFloat.pack
    dsimp only
    rw [hbias, if_neg (by show ¬2 ^ 11 ≤ (e + 1075).toNat + 1; omega), if_pos (by rw [hbits]; rfl)]
    exact (unpack_packComponents s _ hexponent.1).2 (hexponent.2 (by omega))
  | _ => exact absurd h id

/-! ## Numbers of bits -/

/-- Dividing by a power of two takes that many bits away. -/
theorem log2_div_pow {m k : Nat} (hk : k ≤ m.log2) (hm : m ≠ 0) :
    (m / 2 ^ k).log2 = m.log2 - k := by
  have hlow : 2 ^ (m.log2 - k) ≤ m / 2 ^ k := by
    rw [Nat.le_div_iff_mul_le (Nat.two_pow_pos k), ← Nat.pow_add, Nat.sub_add_cancel hk]
    exact Nat.log2_self_le hm
  have hhigh : m / 2 ^ k < 2 ^ (m.log2 - k + 1) := by
    rw [Nat.div_lt_iff_lt_mul (Nat.two_pow_pos k), ← Nat.pow_add]
    have hsum : m.log2 - k + 1 + k = m.log2 + 1 := by omega
    rw [hsum]
    exact Nat.lt_log2_self
  have hpos : m / 2 ^ k ≠ 0 := by
    have hpow := Nat.two_pow_pos (m.log2 - k)
    omega
  exact (Nat.log2_eq_iff hpos).mpr ⟨hlow, hhigh⟩

/-- Multiplying by a power of two adds that many bits. -/
theorem log2_shiftLeft {m : Nat} (hm : m ≠ 0) (k : Nat) : (m <<< k).log2 = m.log2 + k := by
  induction k with
  | zero => rfl
  | succ k ih =>
    have hne : m <<< k ≠ 0 := by
      rw [Nat.shiftLeft_eq]
      exact Nat.mul_ne_zero hm (Nat.two_pow_pos k).ne'
    rw [Nat.shiftLeft_succ, Nat.log2_two_mul hne, ih, Nat.add_assoc]

/-- Rounding up adds at most one bit. -/
theorem log2_of_le_succ {m n : Nat} (hm : m ≠ 0) (hlow : m ≤ n) (hhigh : n ≤ m + 1) :
    m.log2 ≤ n.log2 ∧ n.log2 ≤ m.log2 + 1 := by
  have hn : n ≠ 0 := by omega
  have hbelow : 2 ^ m.log2 ≤ m := Nat.log2_self_le hm
  have habove : m < 2 ^ (m.log2 + 1) := Nat.lt_log2_self
  constructor
  · exact (Nat.le_log2 hn).mpr (by omega)
  · have hbound : n < 2 ^ (m.log2 + 1 + 1) := by
      rw [Nat.pow_succ]
      omega
    exact Nat.lt_succ_iff.mp ((Nat.log2_lt hn).mpr hbound)

/-- A mantissa with enough bits is not zero. -/
theorem ne_zero_of_le_log2 {m : Nat} (h : 52 ≤ m.log2) : m ≠ 0 := by
  rintro rfl
  rw [Nat.log2_zero] at h
  omega

/-! ## Rounding -/

/-- A shift divides the mantissa. -/
theorem mantissa_shiftRight (mantissa : ExtendedMantissa) (k : Nat) :
    (mantissa >>> k).mantissa = mantissa.mantissa / 2 ^ k := by
  induction k with
  | zero => simp [HShiftRight.hShiftRight, Nat.repeat]
  | succ k ih =>
    show (mantissa >>> k).mantissa / 2 = _
    rw [ih, Nat.div_div_eq_div_mul, Nat.pow_succ]

/-- What was cut off before does not count. -/
theorem mantissa_ofMantissaAndAccuracy (m : Nat) (accuracy : Accuracy) :
    (ExtendedMantissa.ofMantissaAndAccuracy m accuracy).mantissa = m := by
  cases accuracy with
  | exact => rfl
  | inexact order => cases order <;> rfl

/-- Rounding adds at most one. -/
theorem roundedMantissa_bounds (mantissa : ExtendedMantissa) :
    mantissa.mantissa ≤ mantissa.roundedMantissa ∧
      mantissa.roundedMantissa ≤ mantissa.mantissa + 1 := by
  obtain ⟨m, r, s⟩ := mantissa
  cases r <;> cases s <;>
    simp only [ExtendedMantissa.roundedMantissa, ExtendedMantissa.accuracy,
      Accuracy.roundToNearestEven] <;>
    omega

/-- Rounding makes no number out of what is none. -/
theorem roundWithAccuracy_ne_notANumber (s : Sign) (m : Nat) (e : Int) (accuracy : Accuracy) :
    roundWithAccuracy .binary64 s m e accuracy ≠ .notANumber := by
  unfold roundWithAccuracy
  dsimp only
  generalize shiftToTargetExponent .binary64 m e accuracy = first
  generalize shiftToTargetExponent .binary64 first.1.roundedMantissa first.2 .exact = last
  by_cases hzero : last.1.mantissa = 0
  · rw [dif_pos hzero]
    exact fun h => by cases h
  · rw [dif_neg hzero]
    exact fun h => by cases h

/-- A mantissa that is shifted to its target exponent keeps its highest 53 bits. -/
theorem shiftToTargetExponent_of_le {m : Nat} {e : Int} (accuracy : Accuracy)
    (hbits : 52 ≤ m.log2) (hlow : -1022 ≤ m.log2 + e) :
    (shiftToTargetExponent .binary64 m e accuracy).1.mantissa = m / 2 ^ (m.log2 - 52) ∧
      (shiftToTargetExponent .binary64 m e accuracy).2 = e + (m.log2 - 52 : Nat) := by
  have htarget : Format.binary64.targetExponent (totalExponent m e) = e + (m.log2 - 52 : Nat) := by
    show max ((m.log2 : Int) + 1 + e - (53 : Nat)) (3 - 2 ^ (11 - 1) - (53 : Nat)) = _
    omega
  have hshift : (e + (m.log2 - 52 : Nat) - e).toNat = m.log2 - 52 := by omega
  unfold shiftToTargetExponent shiftToExponent
  dsimp only
  rw [htarget, hshift, mantissa_shiftRight, mantissa_ofMantissaAndAccuracy]
  exact ⟨rfl, rfl⟩

/-- **Rounding a mantissa with enough bits gives a normal double**, unless its exponent is near the
ends of the range. -/
theorem isNormal_roundWithAccuracy (s : Sign) {m : Nat} {e : Int} (accuracy : Accuracy)
    (hbits : 52 ≤ m.log2) (hlow : -1022 ≤ m.log2 + e) (hhigh : m.log2 + e ≤ 1022) :
    IsNormal (roundWithAccuracy .binary64 s m e accuracy) := by
  obtain ⟨hmantissa, hexponent⟩ := shiftToTargetExponent_of_le accuracy hbits hlow
  unfold roundWithAccuracy
  generalize shiftToTargetExponent .binary64 m e accuracy = first at hmantissa hexponent ⊢
  obtain ⟨shifted, e'⟩ := first
  dsimp only at hmantissa hexponent ⊢
  -- after the first shift there are 53 bits, and rounding gives at most one more
  have hshifted : shifted.mantissa.log2 = 52 := by
    rw [hmantissa, log2_div_pow (by omega) (ne_zero_of_le_log2 hbits)]
    omega
  have hround := roundedMantissa_bounds shifted
  have hrounded := log2_of_le_succ (ne_zero_of_le_log2 hshifted.ge) hround.1 hround.2
  rw [hshifted] at hrounded
  -- the second shift takes that bit away again
  generalize shifted.roundedMantissa = n at hrounded ⊢
  obtain ⟨hfinal, hfinalExponent⟩ :=
    shiftToTargetExponent_of_le (m := n) (e := e') .exact hrounded.1 (by omega)
  have hlast : (shiftToTargetExponent .binary64 n e' .exact).1.mantissa.log2 = 52 := by
    rw [hfinal, log2_div_pow (by omega) (ne_zero_of_le_log2 hrounded.1)]
    omega
  rw [dif_neg (ne_zero_of_le_log2 hlast.ge)]
  refine ⟨hlast, ?_, ?_⟩
  · rw [hfinalExponent]
    omega
  · rw [hfinalExponent]
    omega

/-! ## Counts and quotients -/

/-- A positive 64-bit number is a normal double. -/
theorem isNormal_ofNat {n : Nat} (hpos : 0 < n) (hsmall : n < 2 ^ 64) :
    IsNormal (UnpackedFloat.ofNat .binary64 n) := by
  have hbits : n.log2 < 64 := (Nat.log2_lt (by omega)).mpr hsmall
  have hround : UnpackedFloat.ofNat .binary64 n = UnpackedFloat.round .binary64 .positive n 0 := by
    have hcompare : compare (n : Int) 0 = .gt := by
      rw [compare_gt_iff_gt]
      omega
    unfold UnpackedFloat.ofNat UnpackedFloat.ofInt UnpackedFloat.normalize
    rw [hcompare]
    rfl
  have htarget : Format.binary64.targetExponent (totalExponent n 0) = (n.log2 : Int) - 52 := by
    show max ((n.log2 : Int) + 1 + 0 - (53 : Nat)) (3 - 2 ^ (11 - 1) - (53 : Nat)) = _
    omega
  have hamount : (0 - ((n.log2 : Int) - 52)).toNat = 52 - n.log2 := by omega
  have hshift := log2_shiftLeft hpos.ne' (52 - n.log2)
  -- with fewer than 53 bits the mantissa is shifted up first; with more it is rounded
  rw [hround]
  unfold UnpackedFloat.round decreaseExponent
  rw [htarget]
  dsimp only
  rw [hamount]
  exact isNormal_roundWithAccuracy _ _ (by omega) (by omega) (by omega)

/-- A natural number becomes a number or the infinite value. -/
theorem ofNat_ne_notANumber (n : Nat) : UnpackedFloat.ofNat .binary64 n ≠ .notANumber := by
  unfold UnpackedFloat.ofNat UnpackedFloat.ofInt UnpackedFloat.normalize UnpackedFloat.round
  dsimp only
  split
  · exact roundWithAccuracy_ne_notANumber _ _ _ _
  · exact fun h => by cases h
  · exact roundWithAccuracy_ne_notANumber _ _ _ _

/-- A number divided by a proper one is a number. -/
theorem isNumber_div {a b : Float} (ha : IsNumber a) (hb : IsProper b.toModel.unpack) :
    IsNumber (a / b) := by
  rw [isNumber_iff] at ha ⊢
  show (Float.Model.pack (UnpackedFloat.div .binary64 a.toModel.unpack b.toModel.unpack)).unpack ≠
    .notANumber
  apply unpack_pack_ne_notANumber
  -- the divisor is finite and not zero, which leaves out all quotients that are no numbers
  generalize a.toModel.unpack = x at ha
  generalize b.toModel.unpack = y at hb
  cases y with
  | finite t n f hn =>
    cases x with
    | notANumber => exact absurd rfl ha
    | infinity s => exact fun h => by cases h
    | zero s => exact fun h => by cases h
    | finite s m e hm => exact roundWithAccuracy_ne_notANumber _ _ _ _
  | _ => exact absurd hb id

/-- A count that is kept within 64 bits stays positive. -/
theorem toNat_ofNatClamp (n : Nat) :
    (UInt64.ofNatClamp n).toNat < 2 ^ 64 ∧ (0 < n → 0 < (UInt64.ofNatClamp n).toNat) := by
  refine ⟨UInt64.toNat_lt _, fun hn => ?_⟩
  unfold UInt64.ofNatClamp
  split
  · rwa [UInt64.toNat_ofNatLT]
  · rw [UInt64.toNat_ofNatLT]
    decide

/-- The value of a count is a number. -/
theorem isNumber_countValue (count : Nat) : IsNumber (countValue count) := by
  rw [isNumber_iff]
  exact unpack_pack_ne_notANumber (ofNat_ne_notANumber _)

/-- The value of a positive count is finite and not zero. -/
theorem isProper_countValue {count : Nat} (h : 0 < count) :
    IsProper (countValue count).toModel.unpack := by
  obtain ⟨hsmall, hpos⟩ := toNat_ofNatClamp count
  exact isProper_unpack_pack (isNormal_ofNat (hpos h) hsmall)

/-- A zero stays a zero by packing. -/
theorem unpack_pack_zero (sign : Sign) : (Float.Model.pack (.zero sign)).unpack = .zero sign := by
  cases sign <;> rfl

/-- A quotient of nothing and a positive count is zero, and stands where zero stands. -/
theorem rank_zero_div_countValue {count : Nat} (h : 0 < count) :
    rank (countValue 0 / countValue count) = rank 0.0 := by
  have hnothing : (countValue 0).toModel.unpack = .zero .positive := rfl
  have hzero : (0.0 : Float).toModel.unpack = .zero .positive := rfl
  have hproper := isProper_countValue h
  show unpackedRank (Float.Model.pack (UnpackedFloat.div .binary64
    (countValue 0).toModel.unpack (countValue count).toModel.unpack)).unpack =
      unpackedRank (0.0 : Float).toModel.unpack
  rw [hnothing, hzero]
  -- the divisor is finite and not zero, so the quotient is a zero, of one sign or the other
  generalize (countValue count).toModel.unpack = divisor at hproper
  cases divisor with
  | finite sign mantissa exponent hmantissa =>
    have hquotient : UnpackedFloat.div .binary64 (.zero .positive)
        (.finite sign mantissa exponent hmantissa) = .zero sign := by
      cases sign <;> rfl
    rw [hquotient, unpack_pack_zero]
    rfl
  | _ => exact absurd hproper id

end Double

/-! ## Similarities -/

open Double

/-- Where a table has a column, some name is counted. -/
theorem unionCount_pos (column : Column) (old new : List Column) :
    0 < unionCount (column :: old) new := by
  unfold unionCount columnNames
  rw [List.cons_append, List.map_cons, List.eraseDups_cons, List.length_cons]
  exact Nat.succ_pos _

/-- **A similarity is always a number.** -/
theorem isNumber_similarity (options : MatchOptions) (old new : List Column) :
    IsNumber (similarity options old new) := by
  have hzero : IsNumber 0.0 := by decide +kernel
  have hone : IsNumber 1.0 := by decide +kernel
  -- two empty tables, one empty table, and a quotient with a positive divisor
  cases old with
  | nil =>
    cases new with
    | nil => exact hone
    | cons column new => exact hzero
  | cons former old =>
    cases new with
    | nil => exact hzero
    | cons column new =>
      rw [similarity]
      split
      · exact isNumber_div (isNumber_countValue _) (isProper_countValue (unionCount_pos ..))
      · exact hzero

end SchemaEvolution
