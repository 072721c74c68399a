/-
MMOServers.Lib.HexField — hexadecimal numbers of a fixed width.

`digits w n` are the last `w` hexadecimal digits of `n`, the highest first. A
field of width `w` holds the numbers below `16 ^ w`, and it holds each of them in
one way only. `leftpad_toDigits` says that such a field is what padding the
shortest form with zeros gives.
-/
import Mathlib.Algebra.Group.Nat.Defs
import Mathlib.Data.List.Basic

namespace HexField

/-- The alphabet. -/
def alphabet : List Char := "0123456789abcdef".toList

def digits : Nat → Nat → List Char
  | 0, _ => []
  | w + 1, n => digits w (n / 16) ++ [Nat.digitChar (n % 16)]

theorem digitChar_mem : ∀ d < 16, Nat.digitChar d ∈ alphabet := by decide

theorem digitChar_injOn : ∀ d < 16, ∀ d' < 16, Nat.digitChar d = Nat.digitChar d' → d = d' := by
  decide

@[simp] theorem length_digits (w n : Nat) : (digits w n).length = w := by
  induction w generalizing n with
  | zero => rfl
  | succ w ih => simp [digits, ih]

theorem mem_digits {w n : Nat} {c : Char} (h : c ∈ digits w n) : c ∈ alphabet := by
  induction w generalizing n with
  | zero => cases h
  | succ w ih =>
      rw [digits, List.mem_append, List.mem_singleton] at h
      rcases h with h | rfl
      · exact ih h
      · exact digitChar_mem _ (Nat.mod_lt n (by decide))

theorem digits_zero (w : Nat) : digits w 0 = List.replicate w '0' := by
  induction w with
  | zero => rfl
  | succ w ih =>
      rw [digits, Nat.zero_div, ih, List.replicate_succ']
      rfl

/-- A field determines the number in it. -/
theorem digits_inj {w m n : Nat} (hm : m < 16 ^ w) (hn : n < 16 ^ w) :
    digits w m = digits w n ↔ m = n := by
  induction w generalizing m n with
  | zero =>
      rw [Nat.pow_zero, Nat.lt_one_iff] at hm hn
      simp [hm, hn]
  | succ w ih =>
      refine ⟨fun h => ?_, fun h => h ▸ rfl⟩
      rw [digits, digits] at h
      obtain ⟨hhigh, hlow⟩ := List.append_inj' h rfl
      rw [Nat.pow_succ] at hm hn
      have hdiv : m / 16 = n / 16 :=
        (ih (Nat.div_lt_of_lt_mul (Nat.mul_comm _ _ ▸ hm))
          (Nat.div_lt_of_lt_mul (Nat.mul_comm _ _ ▸ hn))).mp hhigh
      have hmod : m % 16 = n % 16 :=
        digitChar_injOn _ (Nat.mod_lt m (by decide)) _ (Nat.mod_lt n (by decide))
          (List.singleton_inj.mp hlow)
      omega

/-- Padding with zeros to the width gives the field. -/
theorem leftpad_toDigits {w n : Nat} (hw : 0 < w) (hn : n < 16 ^ w) :
    (Nat.toDigits 16 n).leftpad w '0' = digits w n := by
  induction w generalizing n with
  | zero => cases hw
  | succ w ih =>
      by_cases hsmall : n < 16
      · rw [Nat.toDigits_of_lt_base hsmall, digits, Nat.div_eq_of_lt hsmall, digits_zero,
          Nat.mod_eq_of_lt hsmall]
        rfl
      · have hbase : 16 ≤ n := Nat.le_of_not_lt hsmall
        have hpos : 0 < w := by
          rcases Nat.eq_zero_or_pos w with rfl | hpos
          · omega
          · exact hpos
        rw [Nat.pow_succ] at hn
        rw [digits, ← ih hpos (Nat.div_lt_of_lt_mul (Nat.mul_comm _ _ ▸ hn)),
          Nat.toDigits_of_base_le (by decide) hbase]
        simp [List.leftpad]

end HexField
