/-
MMOServers.Common.TokenUtils — `TokenUtils::GenerateSessionToken`.

The loop draws 64-bit values from `dist(gen)` and writes them in hexadecimal. It
is a function of the values drawn, the `i`-th of which is `draws i`. Where they
come from is a parameter as well, an engine that makes a sequence of values from
its 32-bit seed; `mt19937_64` is the one of the program. A full-range
`uniform_int_distribution<uint64_t>` passes the values of a 64-bit engine on.
-/
import Mathlib.Logic.Function.Iterate
import Mathlib.Data.List.Basic

namespace MMOServers.Common

/-- What an engine draws, one value after another, when it is seeded. -/
abbrev Engine := UInt32 → Nat → UInt64

/-! ## std::mt19937_64 -/

namespace Mt19937_64

/-- The state vector from the word `x`, which is the `i`-th one, on. -/
def seedFrom : Nat → Nat → UInt64 → List UInt64
  | 0, _, _ => []
  | k + 1, i, x =>
      x :: seedFrom k (i + 1) ((6364136223846793005 : UInt64) * (x ^^^ (x >>> 62)) +
        UInt64.ofNat (i + 1))

/-- The word that follows the 312 last ones. -/
def twist (x : List UInt64) : UInt64 :=
  let y := (x.getD 0 0 &&& 0xFFFFFFFF80000000) ||| (x.getD 1 0 &&& 0x7FFFFFFF)
  x.getD 156 0 ^^^ (y >>> 1) ^^^ (if y &&& 1 = 0 then 0 else 0xB5026F5AA96619E9)

def advance (x : List UInt64) : List UInt64 := x.tail ++ [twist x]

def temper (z : UInt64) : UInt64 :=
  let z := z ^^^ ((z >>> 29) &&& 0x5555555555555555)
  let z := z ^^^ ((z <<< 17) &&& 0x71D67FFFEDA60000)
  let z := z ^^^ ((z <<< 37) &&& 0xFFF7EEE000000000)
  z ^^^ (z >>> 43)

end Mt19937_64

open Mt19937_64 in
/-- `std::mt19937_64 gen(rd())` under a `uniform_int_distribution<uint64_t>`. -/
def mt19937_64 : Engine := fun seed i =>
  temper (twist (advance^[i] (seedFrom 312 0 seed.toUInt64)))

/-- The first value under the default seed of the engine. -/
example : mt19937_64 5489 0 = 14514284786278117030 := by decide +kernel

/-! ## The loop -/

namespace TokenUtils

/-- `oss << std::setw(width) << value` with `std::hex` and `std::setfill('0')`. -/
def hexField (width : Nat) (value : UInt64) : String :=
  String.ofList ((Nat.toDigits 16 value.toNat).leftpad width '0')

/-- `size_t chunk = (remaining >= 8) ? 8 : remaining`. -/
def chunkOf (remaining : Nat) : Nat := if remaining ≥ 8 then 8 else remaining

/-- What is written of a value that is drawn with `remaining` bytes to go. -/
def field (remaining : Nat) (val : UInt64) : String :=
  let chunk := chunkOf remaining
  hexField (chunk * 2) (val >>> UInt64.ofNat ((8 - chunk) * 8))

/-- `while (remaining > 0)`; `i` values have been drawn. It ends, since a chunk
    has at least one byte. -/
def tokenLoop (draws : Nat → UInt64) (i remaining : Nat) (oss : String) : String :=
  if remaining = 0 then oss
  else
    tokenLoop draws (i + 1) (remaining - chunkOf remaining) (oss ++ field remaining (draws i))
termination_by remaining
decreasing_by
  unfold chunkOf
  split <;> omega

/-- The token that the values drawn make. -/
def tokenOf (draws : Nat → UInt64) (byteLength : Nat) : String := tokenLoop draws 0 byteLength ""

/-- `GenerateSessionToken` when `std::random_device` returns `rd`. -/
def generateSessionToken (engine : Engine) (rd : UInt32) (byteLength : Nat) : String :=
  tokenOf (engine rd) byteLength

end TokenUtils

end MMOServers.Common
