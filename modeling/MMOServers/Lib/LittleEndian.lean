/-
MMOServers.Lib.LittleEndian — fixed-width unsigned integers in a byte string.

A `memcpy` between an integer object and a byte buffer, on a little-endian
machine. Reading takes the leading bytes and ignores what follows; a buffer
that is too short reads as zero, which no caller relies on because each checks
the length first.
-/
import Mathlib.Data.List.Basic

namespace LittleEndian

/-- The 32-bit value of the four leading bytes. -/
def readU32 : List UInt8 → UInt32
  | a :: b :: c :: d :: _ =>
      UInt32.ofNat (a.toNat + 256 * b.toNat + 65536 * c.toNat + 16777216 * d.toNat)
  | _ => 0

/-- The four bytes of a 32-bit value. -/
def writeU32 (x : UInt32) : List UInt8 :=
  [UInt8.ofNat x.toNat, UInt8.ofNat (x.toNat / 256), UInt8.ofNat (x.toNat / 65536),
    UInt8.ofNat (x.toNat / 16777216)]

/-- The 16-bit value of the two leading bytes. -/
def readU16 : List UInt8 → UInt16
  | a :: b :: _ => UInt16.ofNat (a.toNat + 256 * b.toNat)
  | _ => 0

/-- The two bytes of a 16-bit value. -/
def writeU16 (x : UInt16) : List UInt8 := [UInt8.ofNat x.toNat, UInt8.ofNat (x.toNat / 256)]

theorem readU16_writeU16 (x : UInt16) (rest : List UInt8) : readU16 (writeU16 x ++ rest) = x := by
  have hx := x.toNat_lt
  apply UInt16.toNat_inj.mp
  simp only [writeU16, readU16, List.cons_append, UInt16.toNat_ofNat', UInt8.toNat_ofNat']
  omega

theorem writeU16_readU16 (a b : UInt8) (rest : List UInt8) :
    writeU16 (readU16 (a :: b :: rest)) = [a, b] := by
  have ha := a.toNat_lt
  have hb := b.toNat_lt
  simp only [readU16, writeU16, UInt16.toNat_ofNat', List.cons.injEq, and_true]
  constructor
  · apply UInt8.toNat_inj.mp
    rw [UInt8.toNat_ofNat']
    omega
  · apply UInt8.toNat_inj.mp
    rw [UInt8.toNat_ofNat']
    omega

end LittleEndian
