import Mathlib.Algebra.Group.Nat.Defs
import Mathlib.Data.List.Basic
import Mathlib.Order.Monotone.Basic

/-!
# Numbers in a fixed number of bytes

What `to_le_bytes`, `from_le_bytes` and their big-endian sisters do to an unsigned
number, for any width at once.  A number that does not fit keeps its low bytes.

* `ofLe_le`, `ofBe_be`: a number that fits is read back.
* `le_injective`: numbers that fit have different bytes.
* `toNat_shiftLeft_or`, `halves_lt_iff`: a number of 64 bits made of two halves.
* `scaled_strictMono`: no two fractions become equal on a finer scale.
-/

namespace FixedWidth

/-- The low bytes of a number, the lowest first. -/
def le : Nat → Nat → List UInt8
  | 0, _ => []
  | width + 1, n => UInt8.ofNat n :: le width (n / 256)

/-- The number with these bytes, the lowest first. -/
def ofLe : List UInt8 → Nat
  | [] => 0
  | byte :: rest => byte.toNat + 256 * ofLe rest

/-- The low bytes of a number, the lowest last. -/
def be (width n : Nat) : List UInt8 := (le width n).reverse

/-- The number with these bytes, the lowest last. -/
def ofBe (bytes : List UInt8) : Nat := ofLe bytes.reverse

@[simp] theorem length_le (width n : Nat) : (le width n).length = width := by
  induction width generalizing n with
  | zero => rfl
  | succ width ih => rw [le, List.length_cons, ih]

@[simp] theorem length_be (width n : Nat) : (be width n).length = width := by
  rw [be, List.length_reverse, length_le]

theorem ofLe_le {width n : Nat} (h : n < 256 ^ width) : ofLe (le width n) = n := by
  induction width generalizing n with
  | zero =>
      rw [Nat.pow_zero, Nat.lt_one_iff] at h
      rw [h]
      rfl
  | succ width ih =>
      have high : n / 256 < 256 ^ width := by
        rw [Nat.div_lt_iff_lt_mul (by decide), ← Nat.pow_succ]
        exact h
      rw [le, ofLe, ih high, UInt8.toNat_ofNat']
      exact Nat.mod_add_div n 256

theorem ofBe_be {width n : Nat} (h : n < 256 ^ width) : ofBe (be width n) = n := by
  rw [ofBe, be, List.reverse_reverse, ofLe_le h]

theorem le_injective {width m n : Nat} (hm : m < 256 ^ width) (hn : n < 256 ^ width)
    (h : le width m = le width n) : m = n := by
  rw [← ofLe_le hm, h, ofLe_le hn]

/-! ## Two halves of 64 bits -/

/-- What the upper half does not hold is lost, and the lower half does not reach into it. -/
theorem toNat_shiftLeft_or (hi : UInt64) {lo : UInt64} (small : lo.toNat < UInt32.size) :
    (hi <<< 32 ||| lo).toNat = hi.toNat % UInt32.size * UInt32.size + lo.toNat := by
  have shifted : (hi <<< 32).toNat = (hi.toNat % UInt32.size) <<< 32 := by
    rw [UInt64.toNat_shiftLeft, Nat.shiftLeft_eq, Nat.shiftLeft_eq]
    exact Nat.mul_mod_mul_right UInt32.size hi.toNat UInt32.size
  rw [UInt64.toNat_or, shifted, ← Nat.shiftLeft_add_eq_or_of_lt (i := 32) small, Nat.shiftLeft_eq]

/-- Numbers made of two halves are compared by the upper halves first. -/
theorem halves_lt_iff {size hi lo hi' lo' : Nat} (small : lo < size) (small' : lo' < size) :
    hi * size + lo < hi' * size + lo' ↔ hi < hi' ∨ hi = hi' ∧ lo < lo' := by
  have above {a b c : Nat} (less : a < b) (c_lt : c < size) : a * size + c < b * size := by
    calc a * size + c < a * size + size := Nat.add_lt_add_left c_lt _
      _ = (a + 1) * size := (Nat.succ_mul a size).symm
      _ ≤ b * size := Nat.mul_le_mul_right size less
  rcases Nat.lt_trichotomy hi hi' with less | rfl | greater
  · exact iff_of_true (Nat.lt_add_right lo' (above less small)) (Or.inl less)
  · rw [Nat.add_lt_add_iff_left]
    simp
  · refine iff_of_false (Nat.not_lt.mpr ?_) ?_
    · exact Nat.le_add_right_of_le (Nat.le_of_lt (above greater small'))
    · omega

/-! ## Fractions -/

/-- A part of `den` as a part of `scale`. -/
theorem scaled_lt {scale den n : Nat} (h : n < den) (positive : 0 < scale) :
    n * scale / den < scale :=
  Nat.div_lt_of_lt_mul (Nat.mul_lt_mul_of_pos_right h positive)

/-- Parts are told apart on a scale that is finer. -/
theorem scaled_strictMono {scale den : Nat} (positive : 0 < den) (finer : den ≤ scale) :
    StrictMono fun n => n * scale / den := by
  refine strictMono_nat_of_lt_succ fun n => ?_
  calc n * scale / den < n * scale / den + 1 := Nat.lt_succ_self _
    _ = (n * scale + den) / den := (Nat.add_div_right _ positive).symm
    _ ≤ (n + 1) * scale / den := by
      rw [Nat.succ_mul]
      exact Nat.div_le_div_right (Nat.add_le_add_left finer _)

end FixedWidth
