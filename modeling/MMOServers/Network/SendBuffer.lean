/-
MMOServers.Network.SendBuffer — `Send` of the four sessions, byte for byte.

`Send` takes a buffer of the pool, copies the header and the payload into it and
posts it with the size that is to be written from it. The copies are made in the
memory that starts with the buffer, so a copy that is too long for the buffer
makes that memory longer (`writeAt`). The buffer comes as its last user left it.

Three of the sessions cut the size of the message to 16 bits and let protobuf
write it (`pooledSend`). `ClientSession` has its payload in a vector, cuts only
the size of the packet and copies the vector whole. All of them test the cut
size, so a message is whole exactly when the test sees its size, or when it is
dropped (`sends_whole_iff`): lengths from 65532 on can pass as short ones.
-/
import MMOServers.GatewayServer.ClientSession

namespace MMOServers.Network

open MMOServers.Common MMOServers.GatewayServer

/-! ## Memory -/

/-- `struct SendBuffer`. -/
structure SendBuffer where
  bytes : List UInt8
  size : bytes.length = maxPacketSize

/-- A buffer that was not used before. -/
def SendBuffer.fresh : SendBuffer := ⟨List.replicate maxPacketSize 0, List.length_replicate⟩

/-- `memcpy` to an offset. -/
def writeAt (memory : List UInt8) (offset : Nat) (bytes : List UInt8) : List UInt8 :=
  memory.take offset ++ bytes ++ memory.drop (offset + bytes.length)

/-- `SerializeToArray` behind the header; a message that is longer than the size it
    is given is not written at all. -/
def serializeToArray (memory serialized : List UInt8) (size : Nat) : List UInt8 :=
  if size < serialized.length then memory
  else writeAt memory PacketHeader.byteSize serialized

/-- What is posted: the memory from the start of the buffer, and how much of it is
    to be written. -/
structure Posted where
  memory : List UInt8
  totalSize : UInt16

/-- The bytes that go out. -/
def Posted.frame (p : Posted) : List UInt8 := p.memory.take p.totalSize.toNat

/-! ## Send -/

/-- `Send` with a message that protobuf writes into the buffer. -/
def pooledSend (buffer : SendBuffer) (pktId : UInt16) (serialized : List UInt8) :
    Option Posted :=
  let payloadSize := UInt16.ofNat serialized.length
  let totalSize := UInt16.ofNat (PacketHeader.byteSize + payloadSize.toNat)
  if totalSize.toNat > maxPacketSize then none
  else
    let memory := writeAt buffer.bytes 0 (PacketHeader.bytes ⟨totalSize, pktId⟩)
    some ⟨serializeToArray memory serialized payloadSize.toNat, totalSize⟩

/-- `ClientSession::Send` from the final payload on. -/
def copiedSend (buffer : SendBuffer) (pktId : UInt16) (finalPayload : List UInt8) :
    Option Posted :=
  let totalSize := UInt16.ofNat (PacketHeader.byteSize + finalPayload.length)
  if totalSize.toNat > maxPacketSize then none
  else
    let memory := writeAt buffer.bytes 0 (PacketHeader.bytes ⟨totalSize, pktId⟩)
    some ⟨writeAt memory PacketHeader.byteSize finalPayload, totalSize⟩

variable {F Key : Type}

/-- A session with what its `Send` works with. -/
inductive Sending (Key : Type) where
  | gatewaySession
  | serverSession
  | loginSession
  | clientSession (c : ClientSession Key) (iv : Option (List UInt8))

namespace Sending

/-- The payload of a message, none when its encryption fails. -/
def payload (env : GatewayEnv F Key) (serialized : List UInt8) :
    Sending Key → Option (List UInt8)
  | .gatewaySession | .serverSession | .loginSession => some serialized
  | .clientSession c iv => (c.encode env iv serialized).1

/-- The payload is an encrypted one. -/
def encrypts : Sending Key → Bool
  | .gatewaySession | .serverSession | .loginSession => false
  | .clientSession c _ => c.cryptoEnabled && c.crypto.initialized

/-- The part of the message that the payload is made of; `Encrypt` is given the
    size as a `uint16_t`. -/
def encoded (s : Sending Key) (serialized : List UInt8) : List UInt8 :=
  if s.encrypts then serialized.take (serialized.length % 65536) else serialized

/-- `Send` of the session. -/
def send (env : GatewayEnv F Key) (buffer : SendBuffer) (pktId : UInt16)
    (serialized : List UInt8) : Sending Key → Option Posted
  | .gatewaySession => pooledSend buffer pktId serialized
  | .serverSession => pooledSend buffer pktId serialized
  | .loginSession => pooledSend buffer pktId serialized
  | .clientSession c iv =>
      match (c.encode env iv serialized).1 with
      | none => none
      | some finalPayload => copiedSend buffer pktId finalPayload

end Sending

/-! ## Whole frames -/

/-- The size in the header is that of the whole packet, the frame is the header and
    the whole payload, and nothing was written behind the buffer. -/
structure Posted.Whole (p : Posted) (pktId : UInt16) (payload : List UInt8) : Prop where
  size : p.totalSize.toNat = PacketHeader.byteSize + payload.length
  frame : p.frame = PacketHeader.bytes ⟨p.totalSize, pktId⟩ ++ payload
  inside : p.memory.length = maxPacketSize

/-- The size that is tested is above the limit, although it was cut. -/
def Dropped (length : Nat) : Prop :=
  maxPacketSize - PacketHeader.byteSize < length % 65536 ∧
    length % 65536 < 65536 - PacketHeader.byteSize

instance (length : Nat) : Decidable (Dropped length) := inferInstanceAs (Decidable (_ ∧ _))

theorem bytes_length (h : PacketHeader) : h.bytes.length = PacketHeader.byteSize := rfl

/-- The header and a payload that follows it, copied one after the other. -/
theorem writeAt_header (buffer : SendBuffer) (h : PacketHeader) (payload : List UInt8) :
    writeAt (writeAt buffer.bytes 0 h.bytes) PacketHeader.byteSize payload
      = h.bytes ++ payload ++ buffer.bytes.drop (PacketHeader.byteSize + payload.length) := by
  have hlen := bytes_length h
  have hheader : writeAt buffer.bytes 0 h.bytes
      = h.bytes ++ buffer.bytes.drop PacketHeader.byteSize := by
    rw [writeAt, List.take_zero, List.nil_append, Nat.zero_add, hlen]
  rw [hheader, writeAt, List.take_append_of_le_length (Nat.le_of_eq hlen.symm), ← hlen,
    List.take_length, List.drop_append, List.drop_drop,
    List.drop_of_length_le (Nat.le_add_right _ _), List.nil_append]
  congr 2
  omega

/-- A payload that fits behind the header is posted whole. -/
theorem whole_of_fits (buffer : SendBuffer) (pktId : UInt16) {payload : List UInt8}
    {totalSize : UInt16} (hsize : totalSize.toNat = PacketHeader.byteSize + payload.length)
    (hfits : payload.length ≤ maxPacketSize - PacketHeader.byteSize) :
    Posted.Whole ⟨writeAt (writeAt buffer.bytes 0 (PacketHeader.bytes ⟨totalSize, pktId⟩))
      PacketHeader.byteSize payload, totalSize⟩ pktId payload := by
  have hlen := bytes_length ⟨totalSize, pktId⟩
  refine ⟨hsize, ?_, ?_⟩
  · rw [Posted.frame, writeAt_header, List.take_append_of_le_length, List.take_of_length_le]
    · rw [List.length_append, hlen, hsize]
    · rw [List.length_append, hlen, hsize]
  · rw [writeAt_header]
    simp only [List.length_append, List.length_drop, hlen, buffer.size]
    unfold maxPacketSize PacketHeader.byteSize at *
    omega

/-! ## The cut size -/

theorem totalSize_toNat (length : Nat) :
    (UInt16.ofNat (PacketHeader.byteSize + length)).toNat
      = (PacketHeader.byteSize + length) % 65536 := UInt16.toNat_ofNat'

/-- Cut before the header is added, a size is the same after it. -/
theorem payloadSize_total (length : Nat) :
    (UInt16.ofNat (PacketHeader.byteSize + (UInt16.ofNat length).toNat)).toNat
      = (PacketHeader.byteSize + length) % 65536 := by
  rw [totalSize_toNat, UInt16.toNat_ofNat']
  exact Nat.add_mod_mod _ _ _

theorem dropped_iff (length : Nat) :
    Dropped length ↔ (PacketHeader.byteSize + length) % 65536 > maxPacketSize := by
  unfold Dropped maxPacketSize PacketHeader.byteSize
  omega

/-- A size that passes the test is the right one exactly when the payload fits. -/
theorem cut_eq_iff {length : Nat} (h : ¬ Dropped length) :
    (PacketHeader.byteSize + length) % 65536 = PacketHeader.byteSize + length ↔
      length ≤ maxPacketSize - PacketHeader.byteSize := by
  unfold Dropped maxPacketSize PacketHeader.byteSize at *
  omega

/-- A copied payload: the frame is whole exactly when the payload fits, or when the
    packet is dropped. -/
theorem copiedSend_whole_iff (buffer : SendBuffer) (pktId : UInt16) (payload : List UInt8) :
    (∀ p, copiedSend buffer pktId payload = some p → p.Whole pktId payload) ↔
      payload.length ≤ maxPacketSize - PacketHeader.byteSize ∨ Dropped payload.length := by
  have htotal := totalSize_toNat payload.length
  unfold copiedSend
  dsimp only
  by_cases hdropped : Dropped payload.length
  · rw [if_pos (htotal ▸ (dropped_iff _).mp hdropped)]
    exact iff_of_true (by simp) (Or.inr hdropped)
  · rw [if_neg (htotal ▸ mt (dropped_iff _).mpr hdropped), or_iff_left hdropped,
      ← cut_eq_iff hdropped, ← htotal]
    constructor
    · intro h
      exact (h _ rfl).size
    · rintro hsize p hp
      obtain rfl := Option.some.inj hp
      exact whole_of_fits buffer pktId hsize ((cut_eq_iff hdropped).mp (htotal ▸ hsize))

/-- A payload that protobuf writes: it is too long for the size it is given when
    the cut size is not its own. -/
theorem pooledSend_whole_iff (buffer : SendBuffer) (pktId : UInt16) (payload : List UInt8) :
    (∀ p, pooledSend buffer pktId payload = some p → p.Whole pktId payload) ↔
      payload.length ≤ maxPacketSize - PacketHeader.byteSize ∨ Dropped payload.length := by
  have htotal := payloadSize_total payload.length
  unfold pooledSend
  dsimp only
  by_cases hdropped : Dropped payload.length
  · rw [if_pos (htotal ▸ (dropped_iff _).mp hdropped)]
    exact iff_of_true (by simp) (Or.inr hdropped)
  · rw [if_neg (htotal ▸ mt (dropped_iff _).mpr hdropped), or_iff_left hdropped,
      ← cut_eq_iff hdropped, ← htotal]
    constructor
    · intro h
      exact (h _ rfl).size
    · rintro hsize p hp
      obtain rfl := Option.some.inj hp
      have hfits := (cut_eq_iff hdropped).mp (htotal ▸ hsize)
      have hpayload : (UInt16.ofNat payload.length).toNat = payload.length := by
        rw [UInt16.toNat_ofNat']
        exact Nat.mod_eq_of_lt (Nat.lt_of_le_of_lt hfits (by decide))
      rw [serializeToArray, if_neg (Nat.not_lt.mpr (Nat.le_of_eq hpayload.symm))]
      exact whole_of_fits buffer pktId hsize hfits

theorem copiedSend_eq_none_iff (buffer : SendBuffer) (pktId : UInt16) (payload : List UInt8) :
    copiedSend buffer pktId payload = none ↔ Dropped payload.length := by
  rw [dropped_iff, ← totalSize_toNat]
  unfold copiedSend
  dsimp only
  split
  · rename_i hlarge
    exact iff_of_true rfl hlarge
  · rename_i hfits
    exact iff_of_false (Option.some_ne_none _) hfits

theorem pooledSend_eq_none_iff (buffer : SendBuffer) (pktId : UInt16) (payload : List UInt8) :
    pooledSend buffer pktId payload = none ↔ Dropped payload.length := by
  rw [dropped_iff, ← payloadSize_total]
  unfold pooledSend
  dsimp only
  split
  · rename_i hlarge
    exact iff_of_true rfl hlarge
  · rename_i hfits
    exact iff_of_false (Option.some_ne_none _) hfits

/-! ## The frames of the other models -/

/-- The frames of the gateway's sessions are those that go out of a buffer. -/
theorem copiedSend_frame (buffer : SendBuffer) (pktId : UInt16) (payload : List UInt8) :
    (copiedSend buffer pktId payload).map Posted.frame = ClientSession.frame pktId payload := by
  have htotal := totalSize_toNat payload.length
  unfold copiedSend ClientSession.frame
  dsimp only
  split
  · rfl
  · rw [Option.map_some, Posted.frame, writeAt_header]
    dsimp only
    rw [List.take_append_of_le_length]
    rw [htotal, List.length_append]
    exact Nat.mod_le _ _

/-- The frames of the other servers are those that go out of a fresh buffer. -/
theorem pooledSend_frame (pktId : UInt16) (payload : List UInt8) :
    (pooledSend .fresh pktId payload).map Posted.frame = pooledFrame pktId payload := by
  have htotal := payloadSize_total payload.length
  have hpayload : (UInt16.ofNat payload.length).toNat = payload.length % 65536 :=
    UInt16.toNat_ofNat'
  unfold pooledSend pooledFrame
  dsimp only
  split
  · rfl
  · rename_i hfits
    rw [Option.map_some, Posted.frame, serializeToArray]
    dsimp only
    congr 1
    by_cases hwhole : payload.length < 65536
    · have hcut := hpayload.trans (Nat.mod_eq_of_lt hwhole)
      rw [if_neg (Nat.not_lt.mpr (Nat.le_of_eq hcut.symm)), if_pos hcut.symm, writeAt_header,
        List.take_append_of_le_length]
      rw [htotal, List.length_append]
      exact Nat.mod_le _ _
    · -- nothing is copied behind the header
      have hcut : (UInt16.ofNat payload.length).toNat < payload.length := by omega
      rw [if_pos hcut, if_neg (Nat.ne_of_gt hcut), writeAt, List.take_zero, List.nil_append,
        List.take_append, List.take_append]
      congr 1
      show ((List.replicate maxPacketSize (0 : UInt8)).drop _).take _ = _
      rw [List.drop_replicate, List.take_replicate, List.take_replicate, htotal, hpayload]
      congr 1
      rw [bytes_length]
      rw [htotal] at hfits
      unfold maxPacketSize PacketHeader.byteSize at *
      omega

/-! ## The four sessions -/

namespace Sending

variable {env : GatewayEnv F Key}

/-- Every frame is whole, and made of the whole message. -/
def SendsWhole (env : GatewayEnv F Key) (buffer : SendBuffer) (pktId : UInt16)
    (s : Sending Key) (serialized : List UInt8) : Prop :=
  ∀ payload, s.payload env serialized = some payload →
    ∀ p, s.send env buffer pktId serialized = some p →
      p.Whole pktId payload ∧ s.encoded serialized = serialized

/-- The lengths are those of a packet that fits, or of one that is dropped. -/
def Measured (env : GatewayEnv F Key) (s : Sending Key) (serialized : List UInt8) : Prop :=
  ∀ payload, s.payload env serialized = some payload →
    payload.length ≤ maxPacketSize - PacketHeader.byteSize ∧
        (s.encrypts = true → serialized.length < 65536) ∨
      Dropped payload.length

theorem encoded_eq_iff (s : Sending Key) (serialized : List UInt8) :
    s.encoded serialized = serialized ↔ (s.encrypts = true → serialized.length < 65536) := by
  unfold encoded
  by_cases hon : s.encrypts = true
  · rw [if_pos hon, forall_prop_of_true hon]
    constructor
    · intro h
      have hlen := congrArg List.length h
      rw [List.length_take] at hlen
      omega
    · intro h
      exact List.take_of_length_le (Nat.le_of_eq (Nat.mod_eq_of_lt h).symm)
  · rw [if_neg hon]
    exact iff_of_true rfl fun h => absurd h hon

/-- What is posted for a payload, by what is known about its frames. -/
theorem posted_iff {posted : Option Posted} {pktId : UInt16} {payload : List UInt8} {fits : Prop}
    (whole : Prop) (hnone : posted = none ↔ Dropped payload.length)
    (hwhole : (∀ p, posted = some p → p.Whole pktId payload) ↔ fits ∨ Dropped payload.length) :
    (∀ p, posted = some p → p.Whole pktId payload ∧ whole) ↔
      fits ∧ whole ∨ Dropped payload.length := by
  cases posted with
  | none => exact iff_of_true (by simp) (Or.inr (hnone.mp rfl))
  | some p =>
      have hsent : ¬ Dropped payload.length := fun h => Option.some_ne_none p (hnone.mpr h)
      rw [or_iff_left hsent] at hwhole ⊢
      rw [← hwhole]
      simp only [Option.some.injEq, forall_eq']

/-- A session sends nothing but whole frames exactly when the lengths are such that
    a packet which does not fit is dropped. -/
theorem sends_whole_iff (env : GatewayEnv F Key) (buffer : SendBuffer) (pktId : UInt16)
    (s : Sending Key) (serialized : List UInt8) :
    s.SendsWhole env buffer pktId serialized ↔ s.Measured env serialized := by
  unfold SendsWhole Measured
  refine forall_congr' fun payload => forall_congr' fun hpayload => ?_
  rw [← encoded_eq_iff]
  cases s with
  | clientSession c iv =>
      have hcopied : copiedSend buffer pktId payload
          = (Sending.clientSession c iv).send env buffer pktId serialized := by
        have hencode : (c.encode env iv serialized).1 = some payload := hpayload
        simp only [send, hencode]
      exact hcopied ▸ posted_iff _ (copiedSend_eq_none_iff buffer pktId payload)
        (copiedSend_whole_iff buffer pktId payload)
  | _ =>
      obtain rfl := Option.some.inj hpayload
      exact posted_iff _ (pooledSend_eq_none_iff buffer pktId _)
        (pooledSend_whole_iff buffer pktId _)

/-- A message of 65536 bytes passes as an empty one: a gateway session sends a
    header alone, and a client session writes the message behind its buffer. -/
theorem sends_emptied :
    ¬ (Sending.gatewaySession : Sending Unit).SendsWhole .sample .fresh PacketId.gameGatewayChatRes
        (List.replicate 65536 0) ∧
      ¬ (Sending.clientSession {} none : Sending Unit).SendsWhole .sample .fresh
        PacketId.gatewayClientChatRes (List.replicate 65536 0) := by
  have hbad : ¬ ((List.replicate 65536 (0 : UInt8)).length ≤ maxPacketSize - PacketHeader.byteSize ∨
      Dropped (List.replicate 65536 (0 : UInt8)).length) := by
    rw [List.length_replicate]
    decide
  generalize PacketId.gameGatewayChatRes = pktId
  generalize PacketId.gatewayClientChatRes = pktId'
  constructor
  · intro h
    exact hbad ((pooledSend_whole_iff .fresh pktId _).mp fun p hp => (h _ rfl p hp).1)
  · intro h
    exact hbad ((copiedSend_whole_iff .fresh pktId' _).mp fun p hp => (h _ rfl p hp).1)

end Sending

end MMOServers.Network
