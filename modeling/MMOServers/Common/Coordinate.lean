/-
MMOServers.Common.Coordinate — a float with its special values.

A coordinate is a number, an infinity or NaN, compared as IEEE 754 compares:
every comparison with NaN is false. Numbers are rational and not rounded, and
there is one zero and one NaN.

`static_cast<int>` of a value that is no `int` after truncation is undefined in
C++. What the cast gives there is a parameter of the type, so a result that
holds for every `Coordinate undefinedCast` holds for whatever a machine does.
-/
import MMOServers.Common.FloatMath

namespace MMOServers.Common

inductive Coordinate (undefinedCast : Int) where
  | finite (q : ℚ)
  | infinity (negative : Bool)
  | nan
  deriving DecidableEq

namespace Coordinate

variable {u : Int}

/-! ## Comparisons -/

def lt : Coordinate u → Coordinate u → Bool
  | .nan, _ => false
  | _, .nan => false
  | .finite a, .finite b => a < b
  | .finite _, .infinity negative => !negative
  | .infinity negative, .finite _ => negative
  | .infinity a, .infinity b => a && !b

def le : Coordinate u → Coordinate u → Bool
  | .nan, _ => false
  | _, .nan => false
  | .finite a, .finite b => a ≤ b
  | .finite _, .infinity negative => !negative
  | .infinity negative, .finite _ => negative
  | .infinity a, .infinity b => a || !b

instance : LT (Coordinate u) := ⟨fun a b => lt a b = true⟩
instance : LE (Coordinate u) := ⟨fun a b => le a b = true⟩

instance : DecidableLT (Coordinate u) := fun a b => inferInstanceAs (Decidable (lt a b = true))
instance : DecidableLE (Coordinate u) := fun a b => inferInstanceAs (Decidable (le a b = true))

@[simp] theorem not_nan_lt (v : Coordinate u) : ¬ .nan < v := Bool.false_ne_true

@[simp] theorem not_lt_nan (v : Coordinate u) : ¬ v < .nan := by
  cases v <;> exact Bool.false_ne_true

@[simp] theorem not_nan_le (v : Coordinate u) : ¬ .nan ≤ v := Bool.false_ne_true

@[simp] theorem not_le_nan (v : Coordinate u) : ¬ v ≤ .nan := by
  cases v <;> exact Bool.false_ne_true

@[simp] theorem finite_lt_finite {a b : ℚ} : (.finite a : Coordinate u) < .finite b ↔ a < b :=
  decide_eq_true_iff

@[simp] theorem finite_le_finite {a b : ℚ} : (.finite a : Coordinate u) ≤ .finite b ↔ a ≤ b :=
  decide_eq_true_iff

@[simp] theorem infinity_lt_finite {negative : Bool} {q : ℚ} :
    (.infinity negative : Coordinate u) < .finite q ↔ negative = true := Iff.rfl

@[simp] theorem finite_lt_infinity {negative : Bool} {q : ℚ} :
    (.finite q : Coordinate u) < .infinity negative ↔ negative = false :=
  Bool.not_eq_true' negative ▸ Iff.rfl

@[simp] theorem infinity_le_finite {negative : Bool} {q : ℚ} :
    (.infinity negative : Coordinate u) ≤ .finite q ↔ negative = true := Iff.rfl

@[simp] theorem finite_le_infinity {negative : Bool} {q : ℚ} :
    (.finite q : Coordinate u) ≤ .infinity negative ↔ negative = false :=
  Bool.not_eq_true' negative ▸ Iff.rfl

/-! ## Arithmetic -/

instance : IntCast (Coordinate u) := ⟨fun n => .finite n⟩

theorem intCast_eq (n : Int) : ((n : Int) : Coordinate u) = .finite n := rfl

/-- The quotient; a number over zero has the sign of the number. -/
def div : Coordinate u → Coordinate u → Coordinate u
  | .nan, _ => .nan
  | _, .nan => .nan
  | .finite a, .finite b =>
      if b ≠ 0 then .finite (a / b) else if a = 0 then .nan else .infinity (a < 0)
  | .finite _, .infinity _ => .finite 0
  | .infinity negative, .finite b => .infinity (negative != decide (b < 0))
  | .infinity _, .infinity _ => .nan

instance : Div (Coordinate u) := ⟨div⟩

theorem finite_div_finite {a b : ℚ} (hb : b ≠ 0) :
    (.finite a / .finite b : Coordinate u) = .finite (a / b) := if_pos hb

/-- `static_cast<int>`. -/
instance : TruncInt (Coordinate u) where
  trunc
    | .finite q => if -2147483649 < q ∧ q < 2147483648 then trunc q else u
    | .infinity _ => u
    | .nan => u

theorem trunc_finite {q : ℚ} (hlo : -2147483649 < q) (hhi : q < 2147483648) :
    trunc (.finite q : Coordinate u) = trunc q := if_pos ⟨hlo, hhi⟩

end Coordinate

end MMOServers.Common
