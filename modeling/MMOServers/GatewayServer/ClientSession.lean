/-
MMOServers.GatewayServer.ClientSession — one client's connection to a gateway.

A session reads in a loop: a header, then a payload, then the next header. At
most one read is pending, and `reading` is that read. What `ReadHeader` does
with a header is split off as `inspectHeader`, what `ReadPayload` does before
it dispatches as `openPayload`, and what `Send` does before it posts as
`encode` and `frame`; the gateway module puts the loop together.

Protobuf and BCrypt are parameters (`GatewayEnv`): parsing and serializing are
functions of the bytes and of the message, and `randomIv n` is the outcome of
the `n`-th call of `GenerateRandomIV`. A session's socket is never closed while
the session exists, so the `is_open` test of `Send` always passes.
-/
import MMOServers.Common.PacketCrypto
import MMOServers.Common.PacketDispatcher
import MMOServers.Common.Protocol
import MMOServers.Common.SendStrand

namespace MMOServers.GatewayServer

open MMOServers.Common

/-- The libraries the gateway is linked with. -/
structure GatewayEnv (F Key : Type) where
  bcrypt : BCrypt Key
  randomIv : Nat → Option (List UInt8)
  parseConnectReq : List UInt8 → Option GatewayConnectReq
  parseChatReq : List UInt8 → Option ChatReq
  parseMoveReq : List UInt8 → Option (MoveReq F)
  parseAttackReq : List UInt8 → Option AttackReq
  parseMoveRes : List UInt8 → Option (GameGatewayMoveRes F)
  parseAttackRes : List UInt8 → Option GameGatewayAttackRes
  parseChatRes : List UInt8 → Option GameGatewayChatRes
  parseTokenNotify : List UInt8 → Option TokenNotify
  serializeConnectRes : GatewayConnectRes → List UInt8
  serializeMoveRes : MoveRes F → List UInt8
  serializeAttackRes : AttackRes → List UInt8
  serializeChatRes : ChatRes → List UInt8
  serializeToGame : ToGame F → List UInt8

/-- No cipher, and the protobuf encoding of the few messages a sample run
    needs. -/
def GatewayEnv.sample : GatewayEnv Unit Unit where
  bcrypt := .plain
  randomIv _ := some (List.replicate 16 0)
  parseConnectReq
    | [] => some ⟨"", ""⟩
    | [10, 1, 97, 18, 1, 116] => some ⟨"a", "t"⟩
    | _ => none
  parseChatReq
    | [] => some ⟨""⟩
    | _ => none
  parseMoveReq
    | [] => some ⟨(), (), (), ()⟩
    | _ => none
  parseAttackReq
    | [] => some ⟨0⟩
    | _ => none
  parseMoveRes _ := none
  parseAttackRes _ := none
  parseChatRes _ := none
  parseTokenNotify
    | [10, 1, 97, 18, 1, 116, 24, 100] => some ⟨"a", "t", 100⟩
    | _ => none
  serializeConnectRes res :=
    (if res.success then [8, 1] else []) ++
      if res.reason = "" then [] else
        18 :: UInt8.ofNat res.reason.utf8ByteSize :: res.reason.toUTF8.toList
  serializeMoveRes _ := []
  serializeAttackRes _ := []
  serializeChatRes _ := []
  serializeToGame m :=
    if m.accountId = "" then [] else
      10 :: UInt8.ofNat m.accountId.utf8ByteSize :: m.accountId.toUTF8.toList

/-- A pending `async_read`. -/
inductive ReadOp where
  | header
  | payload (size : UInt16)
  | dropPayload (size : UInt16)
  deriving DecidableEq

/-- `class ClientSession`. A session that was not accepted yet has no read
    pending. -/
structure ClientSession (Key : Type) where
  accepted : Bool := false
  accountId : String := ""
  header : PacketHeader := ⟨0, 0⟩
  reading : Option ReadOp := none
  rateLimiter : PacketRateLimiter := {}
  rateViolationCount : Nat := 0
  parseTracker : ParseViolationTracker := {}
  crypto : PacketCrypto Key := {}
  cryptoEnabled : Bool := false
  writes : WriteQueue Packet := {}
  strand : List SessionTask := []

namespace ClientSession

variable {F Key : Type} (env : GatewayEnv F Key)

/-! ## Receiving -/

/-- `clientDispatcher.HasHandler`. -/
def hasHandler (id : UInt16) : Bool :=
  id = PacketId.clientGatewayConnectReq || id = PacketId.clientGatewayChatReq ||
    id = PacketId.clientGatewayMoveReq || id = PacketId.clientGatewayAttackReq

/-- How `ReadHeader` goes on. -/
inductive HeaderAction where
  | disconnect
  | skip
  | drop (size : UInt16)
  | dispatch
  | read (size : UInt16)
  deriving DecidableEq

/-- A packet that is not to be handled: its payload is read and thrown away. -/
def dropPacket (size : UInt16) : HeaderAction :=
  if size = 0 then .skip
  else if !validatePayloadSize size then .disconnect
  else .drop size

/-- The callback of `ReadHeader` up to its next read or dispatch. -/
def inspectHeader (c : ClientSession Key) (h : PacketHeader) (now : Nat) :
    HeaderAction × ClientSession Key :=
  let size := PacketHeader.payloadSize h.size
  if h.size.toNat < PacketHeader.byteSize || maxPacketSize < h.size.toNat then (.disconnect, c)
  else
    let (allowed, limiter) := c.rateLimiter.allowPacket now
    let c := { c with rateLimiter := limiter }
    if !allowed then
      let c := { c with rateViolationCount := c.rateViolationCount + 1 }
      if c.rateViolationCount ≥ SecurityConstants.maxRateViolations then (.disconnect, c)
      else (dropPacket size, c)
    else
      let c := { c with rateViolationCount := 0 }
      if !hasHandler h.id then (dropPacket size, c)
      else if size = 0 then (.dispatch, c)
      else if !validatePayloadSize size then (.disconnect, c)
      else (.read size, c)

/-- The data `ReadPayload` dispatches, none when the frame is rejected. -/
def openPayload (c : ClientSession Key) (bytes : List UInt8) :
    Option (List UInt8) × ClientSession Key :=
  if c.cryptoEnabled && c.crypto.initialized then
    match c.crypto.decrypt env.bcrypt bytes with
    | (.ok plain, crypto) => (some plain, { c with crypto := crypto })
    | (.error _, crypto) => (none, { c with crypto := crypto })
  else (some bytes, c)

/-! ## Sending -/

/-- The payload of a serialized message, none when the encryption fails. The
    size is passed to `Encrypt` as a `uint16_t`. -/
def encode (c : ClientSession Key) (iv : Option (List UInt8)) (serialized : List UInt8) :
    Option (List UInt8) × ClientSession Key :=
  if c.cryptoEnabled && c.crypto.initialized then
    match c.crypto.encrypt env.bcrypt iv (serialized.take (serialized.length % 65536)) with
    | (.ok data, crypto) => (some data, { c with crypto := crypto })
    | (.error _, crypto) => (none, { c with crypto := crypto })
  else (some serialized, c)

/-- The bytes that go out for a payload, none when the packet is too large. -/
def frame (pktId : UInt16) (payload : List UInt8) : Option (List UInt8) :=
  let totalSize := UInt16.ofNat (PacketHeader.byteSize + payload.length)
  if totalSize.toNat > maxPacketSize then none
  else some ((PacketHeader.bytes ⟨totalSize, pktId⟩ ++ payload).take totalSize.toNat)

/-- `EnableEncryption`. -/
def enableEncryption (c : ClientSession Key) : ClientSession Key :=
  match c.crypto.initializeWithPassphrase env.bcrypt
      SecurityConstants.sharedPassphrase.toUTF8.toList with
  | (true, crypto) => { c with crypto := crypto, cryptoEnabled := true }
  | (false, crypto) => { c with crypto := crypto }

end ClientSession

end MMOServers.GatewayServer
