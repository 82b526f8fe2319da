import Mathlib.Data.Nat.Digits.Lemmas

/-!
# Unsigned numbers of any size

The operations of a big unsigned integer that a library for cryptography uses:
the big-endian bytes of a number, with the zero written as one zero byte; a
subtraction that has no answer below zero; and powers modulo a number by
repeated squaring.

* `ofBytes_pad`: leading zeros are not part of a number's value.
* `length_pad`: a number below another one is padded to exactly its length.
* `modpow_eq`: repeated squaring computes the power.
-/

namespace BigNumber

/-! ## Bytes -/

/-- The number whose big-endian bytes these are. -/
def ofBytes (bytes : List UInt8) : Nat :=
  Nat.ofDigits 256 (bytes.reverse.map UInt8.toNat)

/-- The shortest big-endian bytes of a number. -/
def toBytes (n : Nat) : List UInt8 :=
  if n = 0 then [0] else ((Nat.digits 256 n).map UInt8.ofNat).reverse

/-- Zeros in front, up to a length. -/
def pad (length : Nat) (bytes : List UInt8) : List UInt8 :=
  List.replicate (length - bytes.length) 0 ++ bytes

theorem ofBytes_replicate_append (zeros : Nat) (bytes : List UInt8) :
    ofBytes (List.replicate zeros 0 ++ bytes) = ofBytes bytes := by
  rw [ofBytes, List.reverse_append, List.reverse_replicate, List.map_append,
    List.map_replicate]
  exact Nat.ofDigits_append_replicate_zero _

@[simp] theorem ofBytes_toBytes (n : Nat) : ofBytes (toBytes n) = n := by
  by_cases h : n = 0
  · rw [toBytes, if_pos h, h]
    rfl
  · have hdigits : ((Nat.digits 256 n).map UInt8.ofNat).map UInt8.toNat =
        Nat.digits 256 n := by
      rw [List.map_map]
      refine (List.map_congr_left fun d hd => ?_).trans (List.map_id _)
      have hlt : d < 256 := Nat.digits_lt_base (by decide) hd
      show (UInt8.ofNat d).toNat = d
      rw [UInt8.toNat_ofNat']
      omega
    rw [toBytes, if_neg h, ofBytes, List.reverse_reverse, hdigits,
      Nat.ofDigits_digits]

@[simp] theorem ofBytes_pad (length n : Nat) : ofBytes (pad length (toBytes n)) = n := by
  rw [pad, ofBytes_replicate_append, ofBytes_toBytes]

theorem length_toBytes_pos (n : Nat) : 0 < (toBytes n).length := by
  by_cases h : n = 0
  · rw [toBytes, if_pos h]
    exact Nat.one_pos
  · rw [toBytes, if_neg h, List.length_reverse, List.length_map]
    exact List.length_pos_iff.mpr (Nat.digits_ne_nil_iff_ne_zero.mpr h)

theorem length_toBytes_le {m n : Nat} (h : m ≤ n) :
    (toBytes m).length ≤ (toBytes n).length := by
  by_cases hm : m = 0
  · rw [hm, toBytes, if_pos rfl]
    exact length_toBytes_pos n
  · have hn : n ≠ 0 := by omega
    rw [toBytes, if_neg hm, toBytes, if_neg hn, List.length_reverse, List.length_map,
      List.length_reverse, List.length_map]
    exact Nat.le_length_digits_le 256 m n h

theorem length_pad {m n : Nat} (h : m ≤ n) :
    (pad (toBytes n).length (toBytes m)).length = (toBytes n).length := by
  have hle := length_toBytes_le h
  rw [pad, List.length_append, List.length_replicate]
  omega

theorem toBytes_eq_zero_iff (n : Nat) : toBytes n = [0] ↔ n = 0 := by
  constructor
  · intro h
    rw [← ofBytes_toBytes n, h]
    rfl
  · intro h
    rw [h]
    rfl

/-! ## Subtraction -/

/-- The difference, where it is not below zero. -/
def checkedSub (a b : Nat) : Option Nat :=
  if b ≤ a then some (a - b) else none

theorem checkedSub_of_le {a b : Nat} (h : b ≤ a) : checkedSub a b = some (a - b) :=
  if_pos h

/-! ## Powers -/

/-- A power modulo a number, by repeated squaring. -/
def modpow (base exponent modulus : Nat) : Nat :=
  if exponent = 0 then
    1 % modulus
  else
    let square := modpow (base * base % modulus) (exponent / 2) modulus
    if exponent % 2 = 1 then base * square % modulus else square
termination_by exponent

/-- **Repeated squaring computes the power.** -/
theorem modpow_eq (base exponent modulus : Nat) :
    modpow base exponent modulus = base ^ exponent % modulus := by
  induction exponent using Nat.strongRecOn generalizing base with
  | ind exponent ih =>
    by_cases h : exponent = 0
    · rw [modpow, if_pos h, h, Nat.pow_zero]
    · have hsquare : modpow (base * base % modulus) (exponent / 2) modulus =
          base ^ (2 * (exponent / 2)) % modulus := by
        rw [ih _ (by omega), ← Nat.pow_mod, Nat.pow_mul, Nat.pow_two]
      rw [modpow, if_neg h, hsquare]
      by_cases hodd : exponent % 2 = 1
      · have hexp : exponent = (2 * (exponent / 2)).succ := by omega
        rw [if_pos hodd, Nat.mul_mod_mod, ← Nat.pow_succ', ← hexp]
      · have hexp : 2 * (exponent / 2) = exponent := by omega
        rw [if_neg hodd, hexp]

theorem modpow_lt (base exponent : Nat) {modulus : Nat} (h : 0 < modulus) :
    modpow base exponent modulus < modulus := by
  rw [modpow_eq]
  exact Nat.mod_lt _ h

end BigNumber
