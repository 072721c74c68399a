/-
MMOServers.Common.PacketHeader — the four bytes in front of every packet.

`PacketHeader` is a packed pair of `uint16_t`, the size of the whole packet
and its id. Every server declares the same structure.
-/
import Mathlib.Data.List.Basic

namespace MMOServers.Common

/-- `MAX_PACKET_SIZE` of `MemoryPool.h`. -/
def maxPacketSize : Nat := 4096

structure PacketHeader where
  size : UInt16
  id : UInt16
  deriving DecidableEq

namespace PacketHeader

/-- `sizeof(PacketHeader)`. -/
def byteSize : Nat := 4

def bytes (h : PacketHeader) : List UInt8 :=
  [UInt8.ofNat h.size.toNat, UInt8.ofNat (h.size.toNat / 256),
    UInt8.ofNat h.id.toNat, UInt8.ofNat (h.id.toNat / 256)]

/-- `static_cast<uint16_t>(header.size - sizeof(PacketHeader))`. -/
def payloadSize (size : UInt16) : UInt16 := size - 4

end PacketHeader

/-- `PacketAssembler::ValidatePayloadSize`. -/
def validatePayloadSize (size : UInt16) : Bool :=
  0 < size.toNat && size.toNat ≤ maxPacketSize - PacketHeader.byteSize

namespace PacketHeader

theorem payloadSize_toNat {size : UInt16} (hmin : byteSize ≤ size.toNat) :
    (payloadSize size).toNat = size.toNat - byteSize :=
  UInt16.toNat_sub_of_le _ _ (UInt16.le_iff_toNat_le.mpr hmin)

theorem payloadSize_pos {size : UInt16} (hsize : payloadSize size ≠ 0) :
    0 < (payloadSize size).toNat :=
  Nat.pos_of_ne_zero fun h => hsize (UInt16.toNat_inj.mp h)

end PacketHeader

/-- The second check of a size never fails. -/
theorem validatePayloadSize_of_fits {size : UInt16} (hmin : PacketHeader.byteSize ≤ size.toNat)
    (hmax : size.toNat ≤ maxPacketSize) (hsize : PacketHeader.payloadSize size ≠ 0) :
    validatePayloadSize (PacketHeader.payloadSize size) = true := by
  simp only [validatePayloadSize, Bool.and_eq_true, decide_eq_true_eq]
  refine ⟨PacketHeader.payloadSize_pos hsize, ?_⟩
  rw [PacketHeader.payloadSize_toNat hmin]
  exact Nat.sub_le_sub_right hmax _

/-- A send buffer with the bytes written from it. Two buffers of one content
    are two packets. -/
structure Packet where
  buffer : Nat
  data : List UInt8
  deriving DecidableEq

end MMOServers.Common
