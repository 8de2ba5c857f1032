import Mathlib

/-!
Contract: the order of floating-point numbers.

Owns:
- the numbers, which are all values but NaN, and operations that give a number;
- their order: of any two numbers one is at most the other, and the order is transitive.

Does not own: what the operations round to.
-/

namespace RunTriage.FloatOrder

open Float.Model (Format UnpackedFloat)
open Float.Model.UnpackedFloat (Sign)

/-! ## Comparing by kind, exponent and mantissa -/

/-- The kinds of numbers in ascending order. -/
def kind : UnpackedFloat → Int
  | .infinity .negative => -2
  | .finite .negative .. => -1
  | .zero _ => 0
  | .finite .positive .. => 1
  | .infinity .positive => 2
  | .notANumber => 0

/-- The exponent, with the sign of the number. -/
def level : UnpackedFloat → Int
  | .finite sign _ exponent _ => sign.apply exponent
  | _ => 0

/-- The mantissa, with the sign of the number. -/
def weight : UnpackedFloat → Int
  | .finite sign mantissa _ _ => sign.apply mantissa
  | _ => 0

/-- Compare two numbers by one integer after the other. -/
def order : UnpackedFloat → UnpackedFloat → Ordering :=
  compareLex (compareOn kind) (compareLex (compareOn level) (compareOn weight))

instance : Std.TransCmp order :=
  inferInstanceAs (Std.TransCmp
    (compareLex (compareOn kind) (compareLex (compareOn level) (compareOn weight))))

theorem compare_neg_neg (left right : Int) : compare (-left) (-right) = compare right left := by
  simp only [compare, compareOfLessAndEq]
  grind

theorem compare_cast (left right : Nat) :
    compare (left : Int) (right : Int) = compare left right := by
  simp only [compare, compareOfLessAndEq]
  grind

/-- Apart from NaN, all values are compared. -/
theorem compare_eq {left right : UnpackedFloat} (isLeft : left ≠ .notANumber)
    (isRight : right ≠ .notANumber) : left.compare right = some (order left right) := by
  rcases left with (_ | _) | _ | (_ | _) | ⟨_ | _, mantissa, exponent, _⟩ <;>
    rcases right with (_ | _) | _ | (_ | _) | ⟨_ | _, otherMantissa, otherExponent, _⟩ <;>
    first
      | rfl
      | exact absurd rfl isLeft
      | exact absurd rfl isRight
      | skip
  case finite.negative.finite.negative =>
    calc _ = some ((compare exponent otherExponent).then (compare mantissa otherMantissa)).swap :=
          rfl
      _ = some ((compare (-exponent) (-otherExponent)).then
            (compare (-(mantissa : Int)) (-(otherMantissa : Int)))) := by
          rw [compare_neg_neg, compare_neg_neg, compare_cast, Ordering.swap_then, Int.compare_swap,
            Nat.compare_swap]
  case finite.positive.finite.positive =>
    calc _ = some ((compare exponent otherExponent).then (compare mantissa otherMantissa)) := rfl
      _ = some ((compare exponent otherExponent).then
            (compare (mantissa : Int) (otherMantissa : Int))) := by rw [compare_cast]

/-! ## The order of numbers -/

/-- The value is not NaN. -/
def IsNumber (value : Float) : Prop := value.toModel.unpack ≠ .notANumber

theorem isNumber_of_isFinite {value : Float} (isFinite : value.isFinite = true) :
    IsNumber value := by
  intro isNaN
  rw [Float.isFinite, Float.Model.isFinite, isNaN] at isFinite
  cases isFinite

section Order

variable {left middle right : Float}

theorem lt_iff (isLeft : IsNumber left) (isRight : IsNumber right) :
    left < right ↔ order left.toModel.unpack right.toModel.unpack = .lt := by
  have unpacked : left < right ↔ left.toModel.unpack.lt right.toModel.unpack = true :=
    decide_eq_true_iff
  rw [unpacked, UnpackedFloat.lt, compare_eq isLeft isRight]
  simp

theorem le_iff (isLeft : IsNumber left) (isRight : IsNumber right) :
    left ≤ right ↔ (order left.toModel.unpack right.toModel.unpack).isLE = true := by
  have unpacked : left ≤ right ↔ left.toModel.unpack.le right.toModel.unpack = true :=
    decide_eq_true_iff
  rw [unpacked, UnpackedFloat.le, compare_eq isLeft isRight, Option.any_some]

theorem le_refl (isLeft : IsNumber left) : left ≤ left := by
  have same : order left.toModel.unpack left.toModel.unpack = .eq := Std.ReflCmp.compare_self
  rw [le_iff isLeft isLeft, same]
  rfl

theorem le_trans (isLeft : IsNumber left) (isMiddle : IsNumber middle) (isRight : IsNumber right)
    (first : left ≤ middle) (second : middle ≤ right) : left ≤ right := by
  rw [le_iff isLeft isMiddle] at first
  rw [le_iff isMiddle isRight] at second
  rw [le_iff isLeft isRight]
  exact Std.TransCmp.isLE_trans first second

theorem not_le_iff (isLeft : IsNumber left) (isRight : IsNumber right) :
    ¬left ≤ right ↔ right < left := by
  have swapped : order left.toModel.unpack right.toModel.unpack =
      (order right.toModel.unpack left.toModel.unpack).swap := Std.OrientedCmp.eq_swap
  rw [le_iff isLeft isRight, lt_iff isRight isLeft, swapped]
  cases order right.toModel.unpack left.toModel.unpack <;> decide

theorem le_of_lt (isLeft : IsNumber left) (isRight : IsNumber right) (before : left < right) :
    left ≤ right := by
  rw [lt_iff isLeft isRight] at before
  rw [le_iff isLeft isRight, before]
  rfl

end Order

/-! ## Operations that give a number -/

/-- Packing a number gives a number: what does not fit becomes infinite. -/
theorem isNumber_pack {value : UnpackedFloat} (isNumber : value ≠ .notANumber) :
    IsNumber ⟨.pack value⟩ := by
  suffices infinite : UnpackedFloat.unpackExponent (UnpackedFloat.pack .binary64 value) = (-1#_) →
      UnpackedFloat.unpackMantissa (UnpackedFloat.pack .binary64 value) = 0#_ by
    intro isNaN
    change UnpackedFloat.unpack .binary64 (UnpackedFloat.pack .binary64 value) = _ at isNaN
    simp only [UnpackedFloat.unpack] at isNaN
    split at isNaN
    · rename_i allOnes
      rw [if_pos (infinite allOnes)] at isNaN
      cases isNaN
    · split at isNaN
      · split at isNaN <;> cases isNaN
      · cases isNaN
  fun_cases UnpackedFloat.pack with
  | case1 => exact absurd rfl isNumber
  | case2 => simp [UnpackedFloat.packedInfinity]
  | case3 => simp [UnpackedFloat.packedZero]
  | case4 => simp [UnpackedFloat.packedInfinity]
  | case5 sign mantissa exponent _ bits biased inRange =>
    rw [UnpackedFloat.unpackExponent_packComponents]
    intro allOnes
    have tooLarge := congrArg BitVec.toNat allOnes
    simp only [BitVec.toNat_ofNat, BitVec.neg_one_eq_allOnes, BitVec.toNat_allOnes] at tooLarge
    simp only [Nat.reducePow, Nat.reduceSub] at inRange tooLarge
    omega
  | case6 => simp

section Operations

variable {spec : Format}

theorem round_ne (sign : Sign) (mantissa : Nat) (exponent : Int)
    (accuracy : UnpackedFloat.Accuracy) :
    UnpackedFloat.roundWithAccuracy spec sign mantissa exponent accuracy ≠ .notANumber := by
  simp only [UnpackedFloat.roundWithAccuracy]
  split <;> nofun

theorem normalize_ne (mantissa exponent : Int) (sign : Sign) :
    UnpackedFloat.normalize spec mantissa exponent sign ≠ .notANumber := by
  unfold UnpackedFloat.normalize
  split
  · exact round_ne _ _ _ _
  · nofun
  · exact round_ne _ _ _ _

section FiniteOperand

variable {left right : UnpackedFloat} (isLeft : left ≠ .notANumber)
  (isFinite : ∃ sign mantissa exponent positive, right = .finite sign mantissa exponent positive)

include isLeft isFinite

theorem mul_finite_ne : UnpackedFloat.mul spec left right ≠ .notANumber := by
  obtain ⟨sign, mantissa, exponent, positive, rfl⟩ := isFinite
  cases left with
  | notANumber => exact absurd rfl isLeft
  | infinity => nofun
  | zero => nofun
  | finite => exact round_ne _ _ _ _

theorem div_finite_ne : UnpackedFloat.div spec left right ≠ .notANumber := by
  obtain ⟨sign, mantissa, exponent, positive, rfl⟩ := isFinite
  cases left with
  | notANumber => exact absurd rfl isLeft
  | infinity => nofun
  | zero => nofun
  | finite => exact round_ne _ _ _ _

end FiniteOperand

theorem ofScientific_ne (mantissa : Nat) (exponent : Int) :
    UnpackedFloat.ofScientific spec mantissa exponent ≠ .notANumber := by
  unfold UnpackedFloat.ofScientific
  split
  · nofun
  · split
    · nofun
    · split
      · nofun
      · split
        · exact mul_finite_ne (by nofun) ⟨_, _, _, _, rfl⟩
        · exact div_finite_ne (by nofun) ⟨_, _, _, _, rfl⟩

end Operations

/-- The first of the exact powers of ten, which is one, is finite. -/
theorem unpack_firstPower : ∃ sign mantissa exponent positive,
    Float.exactlyRepresentablePowersOfTen[0].toModel.unpack =
      .finite sign mantissa exponent positive :=
  ⟨_, _, _, _, rfl⟩

theorem isNumber_ofNat (count : Nat) : IsNumber (Float.ofNat count) := by
  change IsNumber (Float.ofScientific count false 0)
  unfold Float.ofScientific
  split
  · have isConverted : IsNumber count.toUInt64.toFloat := isNumber_pack (normalize_ne _ _ _)
    exact isNumber_pack (mul_finite_ne isConverted unpack_firstPower)
  · exact isNumber_pack (ofScientific_ne _ _)

theorem isNumber_neg {value : Float} (isNumber : IsNumber value) : IsNumber value.neg := by
  refine isNumber_pack ?_
  cases isUnpacked : value.toModel.unpack with
  | notANumber => exact absurd isUnpacked isNumber
  | infinity => nofun
  | zero => nofun
  | finite => nofun

theorem isNumber_ofInt (value : Int) : IsNumber (Float.ofInt value) := by
  cases value with
  | ofNat count => exact isNumber_ofNat count
  | negSucc count => exact isNumber_neg (isNumber_ofNat _)

/-- A number divided by a thousand is a number. -/
theorem isNumber_div_thousand {value : Float} (isNumber : IsNumber value) :
    IsNumber (value / 1000.0) :=
  isNumber_pack (div_finite_ne isNumber ⟨.positive, 1000 * 2 ^ 43, -43, by decide, rfl⟩)

end RunTriage.FloatOrder
