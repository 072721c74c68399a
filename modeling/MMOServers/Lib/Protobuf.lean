/-
MMOServers.Lib.Protobuf — proto3 fields of scalar and string types on the wire.

A field is a tag, which tells its number and its wire type, and then the value. A
number is a varint, seven bits a byte and the lowest first, where each byte but
the last has its high bit set. An int32 is widened to 64 bits, so a negative one
takes ten bytes. A field that has its default value is not written. A repeated
field of strings is one field after the other, the empty strings included.

The encoding of a field with a number below 16 has a tag of one byte.
-/
import Mathlib.Algebra.Ring.Nat
import Mathlib.Data.List.Basic
import MMOServers.Lib.LittleEndian

namespace Protobuf

/-! ## Encoding -/

/-- A varint of at most `groups` bytes and one. -/
def varintGroups : Nat → Nat → List UInt8
  | 0, n => [UInt8.ofNat n]
  | groups + 1, n =>
      if n < 128 then [UInt8.ofNat n]
      else UInt8.ofNat (n % 128 + 128) :: varintGroups groups (n / 128)

def varint (x : UInt64) : List UInt8 := varintGroups 9 x.toNat

/-- A tag of wire type 0 is followed by a varint, and one of wire type 2 by a length
    and so many bytes. -/
def tag (field wireType : Nat) : List UInt8 := varint (UInt64.ofNat (8 * field + wireType))

def int32Varint (x : Int32) : List UInt8 := varint x.toInt64.toUInt64

def int32Field (field : Nat) (x : Int32) : List UInt8 :=
  if x = 0 then [] else tag field 0 ++ int32Varint x

def stringField (field : Nat) (s : String) : List UInt8 :=
  if s = "" then []
  else tag field 2 ++ (varint (UInt64.ofNat s.utf8ByteSize) ++ s.toByteArray.data.toList)

def uint64Field (field : Nat) (x : UInt64) : List UInt8 :=
  if x = 0 then [] else tag field 0 ++ varint x

def int64Field (field : Nat) (x : Int64) : List UInt8 := uint64Field field x.toUInt64

/-- A float goes by its 32 bits; only `+0` is the default. -/
def floatField (field : Nat) (bits : UInt32) : List UInt8 :=
  if bits = 0 then [] else tag field 5 ++ LittleEndian.writeU32 bits

/-- A string of a repeated field. -/
def stringItem (field : Nat) (s : String) : List UInt8 :=
  tag field 2 ++ (varint (UInt64.ofNat s.utf8ByteSize) ++ s.toByteArray.data.toList)

def stringsField (field : Nat) (ss : List String) : List UInt8 := ss.flatMap (stringItem field)

/-! ## Lengths -/

theorem varintGroups_of_lt (groups : Nat) {n : Nat} (h : n < 128) :
    varintGroups groups n = [UInt8.ofNat n] := by
  cases groups with
  | zero => rfl
  | succ groups => simp only [varintGroups, if_pos h]

theorem varintGroups_length_le (groups n : Nat) :
    (varintGroups groups n).length ≤ groups + 1 := by
  induction groups generalizing n with
  | zero => exact Nat.le_refl 1
  | succ groups ih =>
      simp only [varintGroups]
      split
      · exact Nat.le_add_left 1 _
      · exact Nat.succ_le_succ (ih (n / 128))

theorem varint_length_le (x : UInt64) : (varint x).length ≤ 10 := varintGroups_length_le 9 x.toNat

theorem varint_length_one {n : Nat} (h : n < 128) : (varint (UInt64.ofNat n)).length = 1 := by
  have hn : (UInt64.ofNat n).toNat = n := by
    rw [UInt64.toNat_ofNat']
    omega
  rw [varint, hn, varintGroups_of_lt 9 h, List.length_singleton]

theorem varint_length_two {n : Nat} (hmin : 128 ≤ n) (hmax : n < 16384) :
    (varint (UInt64.ofNat n)).length = 2 := by
  have hn : (UInt64.ofNat n).toNat = n := by
    rw [UInt64.toNat_ofNat']
    omega
  have hrest : n / 128 < 128 := by omega
  simp only [varint, hn, varintGroups, if_neg (Nat.not_lt.mpr hmin), if_pos hrest,
    List.length_cons, List.length_nil]

theorem tag_length {field wireType : Nat} (hfield : field < 16) (htype : wireType < 8) :
    (tag field wireType).length = 1 := varint_length_one (by omega)

theorem int32Field_zero (field : Nat) : int32Field field 0 = [] := by
  simp only [int32Field, if_true]

theorem int32Field_length {field : Nat} (hfield : field < 16) {x : Int32} (hx : x ≠ 0) :
    (int32Field field x).length = (int32Varint x).length + 1 := by
  rw [int32Field, if_neg hx, List.length_append, tag_length hfield (by decide), Nat.add_comm]

/-- The length of a string field, for the strings that a varint of two bytes can
    measure. -/
theorem stringField_length {field : Nat} (hfield : field < 16) {s : String} (hs : s ≠ "")
    (hmax : s.utf8ByteSize < 16384) :
    (stringField field s).length = s.utf8ByteSize + if s.utf8ByteSize < 128 then 2 else 3 := by
  have hbytes : s.toByteArray.data.toList.length = s.utf8ByteSize := rfl
  rw [stringField, if_neg hs, List.length_append, List.length_append,
    tag_length hfield (by decide), hbytes]
  split
  · rename_i hshort
    rw [varint_length_one hshort]
    omega
  · rename_i hlong
    rw [varint_length_two (Nat.not_lt.mp hlong) hmax]
    omega

theorem int32Field_length_le {field : Nat} (hfield : field < 16) (x : Int32) :
    (int32Field field x).length ≤ 11 := by
  unfold int32Field
  split
  · exact Nat.zero_le 11
  · have hvalue := varint_length_le x.toInt64.toUInt64
    rw [List.length_append, tag_length hfield (by decide), int32Varint]
    omega

theorem uint64Field_length_le {field : Nat} (hfield : field < 16) (x : UInt64) :
    (uint64Field field x).length ≤ 11 := by
  unfold uint64Field
  split
  · exact Nat.zero_le 11
  · have hvalue := varint_length_le x
    rw [List.length_append, tag_length hfield (by decide)]
    omega

theorem floatField_length_le {field : Nat} (hfield : field < 16) (bits : UInt32) :
    (floatField field bits).length ≤ 5 := by
  unfold floatField
  split
  · exact Nat.zero_le 5
  · rw [List.length_append, tag_length hfield (by decide)]
    exact Nat.le_refl 5

/-- A short string takes two bytes more in a repeated field. -/
theorem stringItem_length {field : Nat} (hfield : field < 16) {s : String}
    (hmax : s.utf8ByteSize < 128) : (stringItem field s).length = s.utf8ByteSize + 2 := by
  have hbytes : s.toByteArray.data.toList.length = s.utf8ByteSize := rfl
  rw [stringItem, List.length_append, List.length_append, tag_length hfield (by decide),
    varint_length_one hmax, hbytes]
  omega

theorem stringsField_length {field : Nat} (hfield : field < 16) {ss : List String}
    (hmax : ∀ s ∈ ss, s.utf8ByteSize < 128) :
    (stringsField field ss).length = (ss.map fun s => s.utf8ByteSize + 2).sum := by
  induction ss with
  | nil => rfl
  | cons s ss ih =>
      obtain ⟨hs, hss⟩ := List.forall_mem_cons.mp hmax
      rw [stringsField, List.flatMap_cons, List.length_append, stringItem_length hfield hs,
        List.map_cons, List.sum_cons, ← ih hss]
      rfl

theorem utf8ByteSize_ofList (cs : List Char) :
    (String.ofList cs).utf8ByteSize = (cs.map Char.utf8Size).sum := by
  induction cs with
  | nil => rfl
  | cons c cs ih =>
      have hsplit : String.ofList (c :: cs) = String.singleton c ++ String.ofList cs := by
        rw [String.singleton_eq_ofList, ← String.ofList_append]
        rfl
      rw [hsplit, String.utf8ByteSize_append, String.utf8ByteSize_singleton, ih, List.map_cons,
        List.sum_cons]

theorem utf8ByteSize_replicate (n : Nat) (c : Char) :
    (String.ofList (List.replicate n c)).utf8ByteSize = n * c.utf8Size := by
  rw [utf8ByteSize_ofList, List.map_replicate, List.sum_replicate_nat]

/-- A character takes at most four bytes. -/
theorem utf8ByteSize_ofList_le (cs : List Char) :
    (String.ofList cs).utf8ByteSize ≤ 4 * cs.length := by
  rw [utf8ByteSize_ofList]
  induction cs with
  | nil => exact Nat.le_refl 0
  | cons c cs ih =>
      have hc := c.utf8Size_le_four
      rw [List.map_cons, List.sum_cons, List.length_cons]
      omega

/-- A string is shorter than its field. -/
theorem utf8ByteSize_le_stringField (field : Nat) (s : String) :
    s.utf8ByteSize ≤ (stringField field s).length := by
  by_cases hs : s = ""
  · subst hs
    exact Nat.zero_le _
  · have hbytes : s.toByteArray.data.toList.length = s.utf8ByteSize := rfl
    rw [stringField, if_neg hs, List.length_append, List.length_append, hbytes]
    omega

end Protobuf
