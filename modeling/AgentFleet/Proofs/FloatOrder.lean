import Mathlib.Data.Prod.Lex
import Mathlib.Data.Int.Order.Basic

/-!
# The order of floats

Floats that are numbers are ordered as a line is: infinity below, then the
negative ones, zero, the positive ones, and infinity above.  Which floats are
numbers is settled by what the operations do before they round, for neither
rounding nor packing gives anything but a number.
-/

namespace AgentFleet

open Float.Model (UnpackedFloat Format)
open Float.Model.UnpackedFloat

/-! ## Numbers -/

theorem isNaN_unpack
    {spec : Format} {b : BitVec spec.numBits}
    (h : unpackExponent b = -1#_ → unpackMantissa b = 0#_) :
    (unpack spec b).isNaN = false := by
  unfold unpack
  dsimp only
  by_cases hones : unpackExponent b = -1#_
  · rw [if_pos hones, if_pos (h hones)]
    rfl
  rw [if_neg hones]
  by_cases hzero : unpackExponent b = 0#_
  · rw [if_pos hzero]
    by_cases hmantissa : unpackMantissa b = 0#_
    · rw [dif_pos hmantissa]
      rfl
    · rw [dif_neg hmantissa]
      rfl
  · rw [if_neg hzero]
    rfl

/-- Packing does not turn a number into something else. -/
theorem isNaN_unpack_pack
    {spec : Format} {x : UnpackedFloat} (h : x.isNaN = false) :
    (unpack spec (pack spec x)).isNaN = false := by
  apply isNaN_unpack
  fun_cases pack with
  | case1 => cases h
  | case2 => simp [packedInfinity]
  | case3 => simp [packedZero]
  | case4 => simp [packedInfinity]
  | case5 s m e hm bits biased hsmall hnormal =>
    intro hones
    rw [unpackExponent_packComponents, ← BitVec.toNat_inj,
      BitVec.neg_one_eq_allOnes, BitVec.toNat_ofNat, BitVec.toNat_allOnes,
      Nat.mod_eq_of_lt (by omega)] at hones
    omega
  | case6 s m e hm bits biased hsmall hsubnormal =>
    intro hones
    have htwo : 1 < 2 ^ spec.exponentBits :=
      Nat.one_lt_two_pow (Nat.pos_iff_ne_zero.mp spec.he)
    rw [unpackExponent_packComponents, ← BitVec.toNat_inj,
      BitVec.neg_one_eq_allOnes, BitVec.toNat_allOnes, BitVec.toNat_ofNat,
      Nat.zero_mod] at hones
    omega

theorem isNaN_of_mantissa
    (s : Sign) (m : Nat) (e : Int) :
    (if h : m = 0 then .zero s
        else UnpackedFloat.finite s m e (Nat.pos_of_ne_zero h)).isNaN =
      false := by
  by_cases h : m = 0
  · rw [dif_pos h]
    rfl
  · rw [dif_neg h]
    rfl

theorem isNaN_roundWithAccuracy
    {spec : Format} {s : Sign} {m : Nat} {e : Int} {a : Accuracy} :
    (roundWithAccuracy spec s m e a).isNaN = false :=
  isNaN_of_mantissa s _ _

/-- A number times a number that is neither zero nor infinite is a number. -/
theorem isNaN_mul_finite
    {spec : Format} {x : UnpackedFloat} (hx : x.isNaN = false) {s : Sign}
    {m : Nat} {e : Int} {hm : 0 < m} :
    (mul spec x (.finite s m e hm)).isNaN = false := by
  cases x with
  | notANumber => cases hx
  | infinity s' => rfl
  | zero s' => rfl
  | finite s' m' e' hm' => exact isNaN_roundWithAccuracy

/-- What is less than something is a number. -/
theorem isNaN_of_lt {x y : Float} (h : x < y) : x.isNaN = false := by
  have hlt : x.toModel.unpack.lt y.toModel.unpack = true := of_decide_eq_true h
  change x.toModel.unpack.isNaN = false
  cases hx : x.toModel.unpack with
  | notANumber =>
    rw [hx] at hlt
    cases hlt
  | infinity s => rfl
  | zero s => rfl
  | finite s m e hm => rfl

theorem isNaN_mul
    {x y : Float} (hx : x.isNaN = false) {s : Sign} {m : Nat} {e : Int}
    {hm : 0 < m} (hy : y.toModel.unpack = .finite s m e hm) :
    (x * y).isNaN = false := by
  have hproduct :
      (mul Format.binary64 x.toModel.unpack y.toModel.unpack).isNaN =
        false := by
    rw [hy]
    exact isNaN_mul_finite hx
  exact isNaN_unpack_pack hproduct

/-! ## Places on the line -/

/-- Where a number stands among the numbers, by its side, its exponent and its
mantissa. -/
def place : UnpackedFloat → ℤ ×ₗ ℤ ×ₗ ℤ
  | .infinity .negative => toLex (-2, toLex (0, 0))
  | .finite .negative m e _ => toLex (-1, toLex (-e, -m))
  | .finite .positive m e _ => toLex (1, toLex (e, m))
  | .infinity .positive => toLex (2, toLex (0, 0))
  | _ => toLex (0, toLex (0, 0))

theorem compare_cast
    (m m' : Nat) :
    compare (m : ℤ) (m' : ℤ) = compare m m' := by
  simp only [compare, compareOfLessAndEq, Int.ofNat_lt, Int.ofNat_inj]

theorem compare_neg (e e' : ℤ) : compare (-e) (-e') = compare e' e := by
  simp only [compare, compareOfLessAndEq, Int.neg_lt_neg_iff, Int.neg_inj,
    eq_comm]

theorem compare_negative
    {m m' : Nat} {e e' : ℤ} {hm : 0 < m} {hm' : 0 < m'} :
    (UnpackedFloat.finite .negative m e hm).compare
        (.finite .negative m' e' hm') =
      some (compare (place (.finite .negative m e hm))
          (place (.finite .negative m' e' hm'))) := by
  change some ((compare e e').then (compare m m')).swap =
    some ((compare (-e) (-e')).then (compare (-(m : ℤ)) (-(m' : ℤ))))
  rw [compare_neg, compare_neg, compare_cast, Ordering.swap_then,
    Int.compare_swap, Nat.compare_swap]

theorem compare_positive
    {m m' : Nat} {e e' : ℤ} {hm : 0 < m} {hm' : 0 < m'} :
    (UnpackedFloat.finite .positive m e hm).compare
        (.finite .positive m' e' hm') =
      some (compare (place (.finite .positive m e hm))
          (place (.finite .positive m' e' hm'))) := by
  change some ((compare e e').then (compare m m')) =
    some ((compare e e').then (compare (m : ℤ) (m' : ℤ)))
  rw [compare_cast]

/-- Numbers compare as their places do. -/
theorem compare_eq_compare_place
    {x y : UnpackedFloat} (hx : x.isNaN = false) (hy : y.isNaN = false) :
    x.compare y = some (compare (place x) (place y)) := by
  rcases x with (_ | _) | _ | _ | ⟨_ | _, m, e, hm⟩ <;>
    rcases y with (_ | _) | _ | _ | ⟨_ | _, m', e', hm'⟩ <;>
    first
    | exact absurd hx (by decide)
    | exact absurd hy (by decide)
    | exact compare_negative
    | exact compare_positive
    | rfl

/-- Where a float that is a number stands among the numbers. -/
def floatPlace (x : Float) : ℤ ×ₗ ℤ ×ₗ ℤ :=
  place x.toModel.unpack

variable {x y : Float} (hx : x.isNaN = false) (hy : y.isNaN = false)

include hx hy

theorem float_lt_iff : x < y ↔ floatPlace x < floatPlace y := by
  have hunfold :
      x < y ↔ (x.toModel.unpack.compare y.toModel.unpack == some .lt) = true :=
    decide_eq_true_iff
  rw [hunfold, compare_eq_compare_place hx hy, beq_iff_eq, Option.some_inj,
    compare_lt_iff_lt]
  rfl

theorem float_le_iff : x ≤ y ↔ floatPlace x ≤ floatPlace y := by
  have hunfold :
      x ≤ y ↔ (x.toModel.unpack.compare y.toModel.unpack).any (·.isLE) = true :=
    decide_eq_true_iff
  rw [hunfold, compare_eq_compare_place hx hy, Option.any_some,
    ← Ordering.ne_gt_iff_isLE]
  exact compare_le_iff_le

theorem float_beq_iff : (x == y) = true ↔ floatPlace x = floatPlace y := by
  have hunfold :
      (x == y) = (x.toModel.unpack.compare y.toModel.unpack == some .eq) := rfl
  rw [hunfold, compare_eq_compare_place hx hy, beq_iff_eq, Option.some_inj,
    compare_eq_iff_eq]
  rfl

end AgentFleet
