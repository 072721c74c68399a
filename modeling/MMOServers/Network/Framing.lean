/-
MMOServers.Network.Framing — packets on the links between the servers.

Every end reads in a loop, a header, its payload, the next header, and each read
is an `async_read` that completes with exactly the bytes it asked for. A reader
is the loop with the bytes that are still to come (`stream`).

`GatewaySession` reads into the one buffer of its `PacketAssembler`, and what it
has read is posted to `game_strand_` as a copy, to be dispatched at any later
time while the loop goes on and the buffer and the header are written again.
`ServerSession` of the world server has such a buffer too and dispatches at once.
`GameConnection` dispatches at once as well, and makes its buffer as large as the
payload.
-/
import MMOServers.Common.SendStrand
import MMOServers.Network.ReconnectingConnection
import MMOServers.Lib.LittleEndian

namespace MMOServers.Common.PacketHeader

open LittleEndian

/-- The header that is read from four bytes. -/
def ofBytes (bytes : List UInt8) : PacketHeader := ⟨readU16 bytes, readU16 (bytes.drop 2)⟩

end MMOServers.Common.PacketHeader

namespace MMOServers.Network

open MMOServers.Common

/-- The ends that read: the two of the link between a gateway and the game server,
    and the one of the world server on its link with the login server. -/
inductive LinkEnd where
  | gatewaySession
  | gameConnection
  | serverSession
  deriving DecidableEq

/-- `GatewaySession::Send` up to the task it posts. -/
def gatewaySessionFrame (pktId : UInt16) (serialized : List UInt8) : Option (List UInt8) :=
  pooledFrame pktId serialized

/-- What `Send` of the other end writes. -/
def LinkEnd.peerFrame : LinkEnd → UInt16 → List UInt8 → Option (List UInt8)
  | .gatewaySession => Network.gameConnection.frame
  | .gameConnection => gatewaySessionFrame
  | .serverSession => Network.worldConnection.frame

/-- A pending `async_read`. -/
inductive FrameRead where
  | header
  | payload (size : UInt16)
  deriving DecidableEq

structure FrameReader where
  stream : List UInt8
  header : PacketHeader := ⟨0, 0⟩
  /-- The buffer payloads are read into. -/
  buffer : List UInt8
  reading : Option FrameRead := some .header
  /-- Packets posted to `game_strand_`, the oldest first. -/
  gameStrand : List (UInt16 × List UInt8) := []
  /-- What the dispatcher was called with. -/
  dispatched : List (UInt16 × List UInt8) := []

namespace FrameReader

/-- A packet is handed on. -/
def handOn (link : LinkEnd) (s : FrameReader) (packet : UInt16 × List UInt8) : FrameReader :=
  match link with
  | .gatewaySession => { s with gameStrand := s.gameStrand ++ [packet] }
  | .gameConnection | .serverSession => { s with dispatched := s.dispatched ++ [packet] }

/-- The buffer for a payload, none when the loop ends instead. -/
def payloadBuffer (link : LinkEnd) (s : FrameReader) (size : UInt16) : Option (List UInt8) :=
  match link with
  | .gatewaySession | .serverSession => if validatePayloadSize size then some s.buffer else none
  | .gameConnection =>
      some (s.buffer.take size.toNat ++ List.replicate (size.toNat - s.buffer.length) 0)

/-- The callback of `ReadHeader`. -/
def headerRead (link : LinkEnd) (s : FrameReader) (h : PacketHeader) : FrameReader :=
  let s := { s with header := h, reading := none }
  if h.size.toNat < PacketHeader.byteSize ∨ maxPacketSize < h.size.toNat then s
  else
    let size := PacketHeader.payloadSize h.size
    if size = 0 then { s.handOn link (h.id, []) with reading := some .header }
    else
      match s.payloadBuffer link size with
      | none => s
      | some buffer => { s with buffer := buffer, reading := some (.payload size) }

/-- The bytes are written from the start of the buffer on. -/
def fill (s : FrameReader) (bytes : List UInt8) : FrameReader :=
  { s with buffer := bytes ++ s.buffer.drop bytes.length }

/-- The callback of `ReadPayload`, with the payload in the buffer. -/
def payloadRead (link : LinkEnd) (s : FrameReader) (size : UInt16) : FrameReader :=
  { s.handOn link (s.header.id, s.buffer.take size.toNat) with reading := some .header }

inductive Label where
  /-- The pending read completes. -/
  | read
  /-- The next posted task runs. -/
  | runGameStrand
  deriving DecidableEq

def step (link : LinkEnd) (s : FrameReader) : Label → Option FrameReader
  | .read =>
      match s.reading with
      | none => none
      | some .header =>
          if s.stream.length < PacketHeader.byteSize then none
          else
            some ({ s with stream := s.stream.drop PacketHeader.byteSize }.headerRead link
              (PacketHeader.ofBytes (s.stream.take PacketHeader.byteSize)))
      | some (.payload size) =>
          if s.stream.length < size.toNat then none
          else
            some (({ s with stream := s.stream.drop size.toNat }.fill
              (s.stream.take size.toNat)).payloadRead link size)
  | .runGameStrand =>
      match s.gameStrand with
      | [] => none
      | packet :: rest =>
          some { s with gameStrand := rest, dispatched := s.dispatched ++ [packet] }

/-- The buffer of a new reader. -/
def startBuffer : LinkEnd → List UInt8
  | .gatewaySession | .serverSession => List.replicate maxPacketSize 0
  | .gameConnection => []

/-- A reader before its first read. -/
def start (link : LinkEnd) (stream : List UInt8) : FrameReader :=
  { stream := stream, buffer := startBuffer link }

end FrameReader

end MMOServers.Network
