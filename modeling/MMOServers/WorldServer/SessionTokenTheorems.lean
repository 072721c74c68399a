/-
MMOServers.WorldServer.SessionTokenTheorems — what a session token says about
the values drawn for it.

* `token_shows_usedBits`: a token of `n` bytes has `2 n` lower-case hexadecimal
  digits, and two sequences of values make the same token exactly when they agree
  in all the bits that are used. No bit that is meant to be used is lost.
* `not_moreTokensThanSeeds`: all values of a token come from one engine that is
  seeded with one 32-bit value. However long a token is, there are no more than
  2^32 of them.
-/
import MMOServers.Common.TokenUtils
import MMOServers.Lib.HexField
import MMOServers.WorldServer.WorldContext
import Mathlib.Data.FinEnum
import Mathlib.Data.Set.Card

namespace MMOServers.Common.TokenUtils

/-! ## One field -/

/-- How far a value is shifted when it is written. -/
def shiftOf (remaining : Nat) : Nat := (8 - chunkOf remaining) * 8

theorem chunkOf_pos {remaining : Nat} (h : remaining ≠ 0) : 0 < chunkOf remaining := by
  unfold chunkOf
  split <;> omega

theorem chunkOf_le (remaining : Nat) : chunkOf remaining ≤ 8 ∧ chunkOf remaining ≤ remaining := by
  unfold chunkOf
  split <;> omega

theorem shifted_toNat {remaining : Nat} (h : remaining ≠ 0) (val : UInt64) :
    (val >>> UInt64.ofNat ((8 - chunkOf remaining) * 8)).toNat
      = val.toNat >>> shiftOf remaining := by
  have hpos := chunkOf_pos h
  rw [UInt64.toNat_shiftRight, UInt64.toNat_ofNat', shiftOf]
  congr 1
  omega

/-- What is left of a value fits into its field. -/
theorem shifted_lt {remaining : Nat} (val : UInt64) :
    val.toNat >>> shiftOf remaining < 16 ^ (chunkOf remaining * 2) := by
  have hle := chunkOf_le remaining
  have hpow : 16 ^ (chunkOf remaining * 2) * 2 ^ shiftOf remaining = 2 ^ 64 := by
    rw [show (16 : Nat) = 2 ^ 4 from rfl, ← Nat.pow_mul, ← Nat.pow_add, shiftOf]
    congr 1
    omega
  rw [Nat.shiftRight_eq_div_pow]
  refine Nat.div_lt_of_lt_mul ?_
  rw [Nat.mul_comm, hpow]
  exact val.toNat_lt

theorem field_toList {remaining : Nat} (h : remaining ≠ 0) (val : UInt64) :
    (field remaining val).toList
      = HexField.digits (chunkOf remaining * 2) (val.toNat >>> shiftOf remaining) := by
  have hpos := chunkOf_pos h
  simp only [field, hexField, String.toList_ofList, shifted_toNat h]
  exact HexField.leftpad_toDigits (by omega) (shifted_lt val)

theorem field_length {remaining : Nat} (h : remaining ≠ 0) (val : UInt64) :
    (field remaining val).length = chunkOf remaining * 2 := by
  rw [← String.length_toList, field_toList h, HexField.length_digits]

/-! ## The bits of a value -/

/-- The bit `b` of the `i`-th value goes into a token of `byteLength` bytes: all
    of a full chunk, the top bytes of a partial one. -/
def UsesBit (byteLength i b : Nat) : Prop := b < 64 ∧ 64 ≤ b + 8 * (byteLength - 8 * i)

/-- The bit `b` of a value. -/
def bit (val : UInt64) (b : Nat) : Bool := val.toNat.testBit b

theorem field_eq_iff {remaining : Nat} (h : remaining ≠ 0) (val val' : UInt64) :
    field remaining val = field remaining val'
      ↔ ∀ b, UsesBit remaining 0 b → bit val b = bit val' b := by
  rw [← String.toList_inj, field_toList h, field_toList h,
    HexField.digits_inj (shifted_lt val) (shifted_lt val')]
  have huses : ∀ b, UsesBit remaining 0 b ↔ b < 64 ∧ shiftOf remaining ≤ b := by
    intro b
    unfold UsesBit shiftOf chunkOf
    split <;> omega
  simp only [huses]
  constructor
  · rintro heq b ⟨-, hb⟩
    have hbit := congrArg (·.testBit (b - shiftOf remaining)) heq
    simpa only [Nat.testBit_shiftRight, Nat.add_sub_cancel' hb, bit] using hbit
  · intro hbits
    refine Nat.eq_of_testBit_eq fun j => ?_
    rw [Nat.testBit_shiftRight, Nat.testBit_shiftRight]
    by_cases hj : shiftOf remaining + j < 64
    · exact hbits _ ⟨hj, Nat.le_add_right _ _⟩
    · have hhigh : ∀ v : UInt64, v.toNat.testBit (shiftOf remaining + j) = false := by
        intro v
        refine Nat.testBit_lt_two_pow (Nat.lt_of_lt_of_le v.toNat_lt ?_)
        exact Nat.pow_le_pow_right (by decide) (Nat.le_of_not_lt hj)
      rw [hhigh, hhigh]

/-! ## The loop -/

theorem tokenLoop_zero (draws : Nat → UInt64) (i : Nat) (oss : String) :
    tokenLoop draws i 0 oss = oss := by
  rw [tokenLoop, if_pos rfl]

theorem tokenLoop_pos (draws : Nat → UInt64) (i : Nat) {remaining : Nat} (h : remaining ≠ 0)
    (oss : String) :
    tokenLoop draws i remaining oss =
      tokenLoop draws (i + 1) (remaining - chunkOf remaining)
        (oss ++ field remaining (draws i)) := by
  rw [tokenLoop, if_neg h]

/-- The loop adds two digits for each byte. -/
theorem tokenLoop_length (draws : Nat → UInt64) (i remaining : Nat) (oss : String) :
    (tokenLoop draws i remaining oss).length = oss.length + 2 * remaining := by
  induction remaining using Nat.strongRecOn generalizing i oss with
  | ind remaining ih =>
      by_cases h : remaining = 0
      · rw [h, tokenLoop_zero]
        rfl
      · have hpos := chunkOf_pos h
        have hle := (chunkOf_le remaining).2
        rw [tokenLoop_pos draws i h, ih _ (by omega), String.length_append, field_length h]
        omega

theorem tokenLoop_digits (draws : Nat → UInt64) (i remaining : Nat) {oss : String}
    (hoss : ∀ c ∈ oss.toList, c ∈ HexField.alphabet) :
    ∀ c ∈ (tokenLoop draws i remaining oss).toList, c ∈ HexField.alphabet := by
  induction remaining using Nat.strongRecOn generalizing i oss with
  | ind remaining ih =>
      by_cases h : remaining = 0
      · rwa [h, tokenLoop_zero]
      · have hpos := chunkOf_pos h
        rw [tokenLoop_pos draws i h]
        refine ih _ (by omega) (i + 1) fun c hc => ?_
        rw [String.toList_append, List.mem_append] at hc
        rcases hc with hc | hc
        · exact hoss c hc
        · rw [field_toList h] at hc
          exact HexField.mem_digits hc

/-- Texts of one length that are continued in the same way. -/
theorem append_eq_iff {s s' t t' : String} (h : s.length = s'.length) :
    s ++ t = s' ++ t' ↔ s = s' ∧ t = t' := by
  rw [← String.toList_inj, String.toList_append, String.toList_append]
  rw [← String.length_toList, ← String.length_toList] at h
  constructor
  · intro heq
    obtain ⟨hs, ht⟩ := List.append_inj heq h
    exact ⟨String.toList_inj.mp hs, String.toList_inj.mp ht⟩
  · rintro ⟨rfl, rfl⟩
    rfl

/-- Two runs of the loop write the same exactly when the values drawn agree in
    the bits that are used. -/
theorem tokenLoop_eq_iff (draws draws' : Nat → UInt64) (i remaining : Nat)
    {oss oss' : String} (hlength : oss.length = oss'.length) :
    tokenLoop draws i remaining oss = tokenLoop draws' i remaining oss'
      ↔ oss = oss' ∧ ∀ j b, UsesBit remaining j b →
          bit (draws (i + j)) b = bit (draws' (i + j)) b := by
  induction remaining using Nat.strongRecOn generalizing i oss oss' with
  | ind remaining ih =>
      by_cases h : remaining = 0
      · rw [h, tokenLoop_zero, tokenLoop_zero]
        refine ⟨fun heq => ⟨heq, fun j b huse => ?_⟩, fun heq => heq.1⟩
        unfold UsesBit at huse
        omega
      · have hpos := chunkOf_pos h
        rw [tokenLoop_pos draws i h, tokenLoop_pos draws' i h]
        rw [ih _ (by omega) (i + 1) (by
          rw [String.length_append, String.length_append, field_length h, field_length h, hlength])]
        rw [append_eq_iff hlength, field_eq_iff h, and_assoc]
        -- the later values are numbered from the next one on
        have hlater : ∀ j b, UsesBit (remaining - chunkOf remaining) j b
            ↔ UsesBit remaining (j + 1) b := by
          intro j b
          unfold UsesBit chunkOf
          split <;> omega
        refine and_congr_right fun _ => ?_
        constructor
        · rintro ⟨hfirst, hrest⟩ j b huse
          cases j with
          | zero => exact hfirst b huse
          | succ j =>
              have hbit := hrest j b ((hlater j b).mpr huse)
              rwa [Nat.add_right_comm] at hbit
        · intro hall
          refine ⟨fun b huse => hall 0 b huse, fun j b huse => ?_⟩
          have hbit := hall (j + 1) b ((hlater j b).mp huse)
          rwa [Nat.add_right_comm]

/-! ## Tokens -/

/-- A token has two digits for each byte, and two sequences of values make
    different tokens exactly when they differ in a bit that is used. -/
theorem token_shows_usedBits (byteLength : Nat) (draws draws' : Nat → UInt64) :
    (tokenOf draws byteLength).length = 2 * byteLength ∧
      (∀ c ∈ (tokenOf draws byteLength).toList, c ∈ "0123456789abcdef".toList) ∧
      ((∃ i b, UsesBit byteLength i b ∧ bit (draws i) b ≠ bit (draws' i) b)
        ↔ tokenOf draws byteLength ≠ tokenOf draws' byteLength) := by
  refine ⟨?_, ?_, ?_⟩
  · rw [tokenOf, tokenLoop_length]
    exact Nat.zero_add _
  · exact tokenLoop_digits draws 0 byteLength fun c hc => absurd hc (by simp)
  · rw [tokenOf, tokenOf, Ne, tokenLoop_eq_iff draws draws' 0 byteLength rfl]
    simp

/-- Eleven bytes take two values and use 24 bits of the second one. -/
example : tokenOf (fun i => if i = 0 then 0x0F else 0xABCDEF0123456789) 11
    = "000000000000000fabcdef" := by
  rw [tokenOf, tokenLoop_pos _ _ (by decide), tokenLoop_pos _ _ (by decide), tokenLoop]
  decide

/-- The tokens of the world server are session tokens. -/
theorem generateSessionToken_isSessionToken (engine : Engine) (rd : UInt32) :
    IsSessionToken (generateSessionToken engine rd 32) := by
  refine ⟨?_, ?_⟩
  · rw [generateSessionToken, tokenOf, tokenLoop_length]
    rfl
  · exact tokenLoop_digits (engine rd) 0 32 fun c hc => absurd hc (by simp)

/-! ## Tokens and seeds -/

/-- More tokens can come out than there are values of 32 bits. -/
def MoreTokensThanSeeds (engine : Engine) (byteLength : Nat) : Prop :=
  ((2 ^ 32 : Nat) : ℕ∞) < (Set.range fun rd => generateSessionToken engine rd byteLength).encard

theorem encard_tokens_le (engine : Engine) (byteLength : Nat) :
    (Set.range fun rd => generateSessionToken engine rd byteLength).encard
      ≤ ((2 ^ 32 : Nat) : ℕ∞) := by
  rw [← Set.image_univ]
  refine (Set.encard_image_le _ _).trans ?_
  rw [Set.encard_univ, ENat.card_eq_coe_fintype_card, ← FinEnum.card_eq_fintypeCard,
    FinEnum.card_UInt32]

/-- One 32-bit value determines the whole token, whatever its length and
    whatever the engine. -/
theorem not_moreTokensThanSeeds (engine : Engine) (byteLength : Nat) :
    ¬ MoreTokensThanSeeds engine byteLength :=
  not_lt.mpr (encard_tokens_le engine byteLength)

/-- The tokens of the world server have 256 bits, and one 32-bit seed each. -/
theorem fewTokens_mt19937_64 : ¬ MoreTokensThanSeeds mt19937_64 32 :=
  not_lt.mpr (encard_tokens_le mt19937_64 32)

end MMOServers.Common.TokenUtils
