/-
MMOServers.Common.PacketCrypto — the packet cipher of `PacketCrypto.{h,cpp}`.

A frame on the wire is `[SeqNum(4B)][IV(16B)][CipherText]`. `encrypt` stamps it
with the next send sequence number, `decrypt` checks the sequence number before
it deciphers and stores the number only after the deciphering succeeded.

The Windows BCrypt calls are a parameter: each is a partial function of its
arguments, and `none` is a status for which `NT_SUCCESS` is false. The random
IV is an argument of `encrypt`. A byte range with its `uint16_t` size is a list
of bytes, and a `CryptoResult` is an `Except` over the failure texts.
-/
import MMOServers.Lib.LittleEndian

namespace MMOServers.Common

open LittleEndian

/-! ## Constants -/

namespace CryptoConstants

def aesKeySize : Nat := 16
def aesBlockSize : Nat := 16
def ivSize : Nat := 16
def sequenceNumSize : Nat := 4

end CryptoConstants

open CryptoConstants

/-! ## BCrypt -/

/-- The BCrypt provider. `Key` is what a key handle stands for. A cipher call is
    made twice, first without an output buffer for the size it needs. -/
structure BCrypt (Key : Type) where
  openAlgorithmProvider : Bool
  setChainingModeCBC : Bool
  generateSymmetricKey : List UInt8 → Option Key
  hashSha256 : List UInt8 → Option (List UInt8)
  encryptSize : Key → List UInt8 → List UInt8 → Option Nat
  encrypt : Key → List UInt8 → List UInt8 → Nat → Option (List UInt8)
  decryptSize : Key → List UInt8 → List UInt8 → Option Nat
  decrypt : Key → List UInt8 → List UInt8 → Nat → Option (List UInt8)

/-- A provider whose cipher and digest are the identity, enough to follow the
    sequence numbers of a run. -/
def BCrypt.plain : BCrypt Unit where
  openAlgorithmProvider := true
  setChainingModeCBC := true
  generateSymmetricKey _ := some ()
  hashSha256 m := some m
  encryptSize _ _ plaintext := some plaintext.length
  encrypt _ _ plaintext _ := some plaintext
  decryptSize _ _ cipher := some cipher.length
  decrypt _ _ cipher _ := some cipher

/-! ## The class -/

/-- `class PacketCrypto`. `hKey` is the key handle, `none` for a null handle. -/
structure PacketCrypto (Key : Type) where
  initialized : Bool := false
  key : List UInt8 := List.replicate aesKeySize 0
  sendSequence : UInt32 := 0
  recvSequence : UInt32 := 0
  hKey : Option Key := none

namespace PacketCrypto

variable {Key : Type} (B : BCrypt Key)

/-- `SEQUENCE_WINDOW`. -/
def sequenceWindow : UInt32 := 100

/-- `PacketCrypto::Initialize`. The key bytes are copied before any call that
    can fail. -/
def initializeKey (c : PacketCrypto Key) (key : List UInt8) : Bool × PacketCrypto Key :=
  if key.length ≠ aesKeySize then (false, c)
  else
    let c := { c with key := key }
    if !B.openAlgorithmProvider then (false, c)
    else if !B.setChainingModeCBC then (false, c)
    else
      match B.generateSymmetricKey key with
      | none => (false, c)
      | some k => (true, { c with hKey := some k, initialized := true })

/-- `PacketCrypto::InitializeWithPassphrase`: the first 16 bytes of the SHA-256
    digest are the key. -/
def initializeWithPassphrase (c : PacketCrypto Key) (passphrase : List UInt8) :
    Bool × PacketCrypto Key :=
  match B.hashSha256 passphrase with
  | none => (false, c)
  | some digest => c.initializeKey B (digest.take aesKeySize)

/-- `PacketCrypto::ValidateSequence`. -/
def validateSequence (c : PacketCrypto Key) (receivedSeq : UInt32) : Bool :=
  if c.recvSequence = 0 ∧ receivedSeq = 0 then true
  else if receivedSeq ≤ c.recvSequence then
    -- the distance decides between a replay and a wrap-around
    if c.recvSequence - receivedSeq < sequenceWindow then false else true
  else if receivedSeq - c.recvSequence > sequenceWindow * 10 then false
  else true

/-- `PacketCrypto::Encrypt`. The sequence number is consumed by every call that
    passes the first test, also by one that fails later. -/
def encrypt (c : PacketCrypto Key) (iv : Option (List UInt8)) (plaintext : List UInt8) :
    Except String (List UInt8) × PacketCrypto Key :=
  match c.initialized, c.hKey with
  | true, some k =>
      if plaintext.length = 0 then
        (.error "Crypto not initialized or empty payload", c)
      else
        let seq := c.sendSequence
        let c := { c with sendSequence := c.sendSequence + 1 }
        match iv with
        | none => (.error "IV generation failed", c)
        | some iv =>
            match B.encryptSize k iv plaintext with
            | none => (.error "BCryptEncrypt size calculation failed", c)
            | some cipherSize =>
                match B.encrypt k iv plaintext cipherSize with
                | none => (.error "BCryptEncrypt failed", c)
                | some cipher => (.ok (writeU32 seq ++ iv ++ cipher), c)
  | _, _ => (.error "Crypto not initialized or empty payload", c)

/-- The IV of a frame. -/
def frameIv (frame : List UInt8) : List UInt8 :=
  (frame.drop sequenceNumSize).take ivSize

/-- The ciphertext of a frame. -/
def frameBody (frame : List UInt8) : List UInt8 :=
  frame.drop (sequenceNumSize + ivSize)

/-- `PacketCrypto::Decrypt`. -/
def decrypt (c : PacketCrypto Key) (frame : List UInt8) :
    Except String (List UInt8) × PacketCrypto Key :=
  match c.initialized, c.hKey with
  | true, some k =>
      if frame.length < sequenceNumSize + ivSize + aesBlockSize then
        (.error "Encrypted payload too small", c)
      else
        let receivedSeq := readU32 frame
        if !c.validateSequence receivedSeq then
          (.error "Sequence number validation failed (possible replay attack)", c)
        else
          match B.decryptSize k (frameIv frame) (frameBody frame) with
          | none => (.error "BCryptDecrypt size calculation failed", c)
          | some plainSize =>
              match B.decrypt k (frameIv frame) (frameBody frame) plainSize with
              | none => (.error "BCryptDecrypt failed", c)
              | some plain => (.ok plain, { c with recvSequence := receivedSeq })
  | _, _ => (.error "Crypto not initialized", c)

end PacketCrypto

end MMOServers.Common
