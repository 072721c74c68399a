/-
MMOServers.LoginServer.Session — one client's connection to the login server.

A session reads in a loop, as a gateway's does, and beside it runs a timer that
looks every fifteen seconds for a missing heartbeat. `reading` is the pending
read and `heartbeatTimer` the state of the timer: an expired timer has its
handler queued, and a cancel comes too late for that handler.

Protobuf is a parameter (`ServerEnv`), and `useDB` is the setting of that name.
Clock readings are in nanoseconds. The socket is never closed while the session
exists, so the `is_open` test of `Send` always passes.
-/
import MMOServers.Common.Protocol
import MMOServers.Common.SendStrand
import MMOServers.Common.DBManager

namespace MMOServers.LoginServer

open MMOServers.Common

/-- The libraries and the settings of the server. -/
structure ServerEnv where
  useDB : Bool
  parseLoginReq : List UInt8 → Option LoginReq
  parseHeartbeat : List UInt8 → Bool
  parseWorldSelectReq : List UInt8 → Option WorldSelectReq
  parseWorldLoginSelectRes : List UInt8 → Option WorldLoginSelectRes
  serializeLoginRes : LoginRes → List UInt8
  serializeWorldSelectRes : WorldSelectRes → List UInt8
  serializeLoginWorldSelectReq : LoginWorldSelectReq → List UInt8

/-- A server without a database, and the protobuf encoding of the few messages
    a sample run needs. -/
def ServerEnv.sample : ServerEnv where
  useDB := false
  parseLoginReq
    | [] => some ⟨"", "", 0⟩
    | [10, 1, 97] => some ⟨"a", "", 0⟩
    | [10, 1, 98] => some ⟨"b", "", 0⟩
    | _ => none
  parseHeartbeat bytes := bytes.isEmpty
  parseWorldSelectReq
    | [] => some ⟨0⟩
    | _ => none
  parseWorldLoginSelectRes _ := none
  serializeLoginRes res := if res.success then [8, 1] else []
  serializeWorldSelectRes _ := []
  serializeLoginWorldSelectReq _ := []

namespace LoginConstants.Heartbeat

def timeoutSeconds : Nat := 30

end LoginConstants.Heartbeat

/-- A pending `async_read`. -/
inductive ReadOp where
  | header
  | payload (size : UInt16)
  deriving DecidableEq

inductive HeartbeatTimer where
  | idle
  | waiting
  | expired
  deriving DecidableEq

/-- `class Session`. A session that was not accepted yet has no read pending. -/
structure Session where
  accepted : Bool := false
  loggedInId : String := ""
  header : PacketHeader := ⟨0, 0⟩
  reading : Option ReadOp := none
  heartbeatTimer : HeartbeatTimer := .idle
  lastHeartbeat : Nat := 0
  writes : WriteQueue Packet := {}
  strand : List SessionTask := []

namespace Session

/-- The session as `start()` leaves it. -/
def start (c : Session) (now : Nat) : Session :=
  { c with accepted := true, reading := some .header, heartbeatTimer := .waiting
           lastHeartbeat := now }

/-- `UpdateHeartbeat`. -/
def updateHeartbeat (c : Session) (now : Nat) : Session := { c with lastHeartbeat := now }

/-- `heartbeat_timer_.cancel()`. -/
def cancelTimer (c : Session) : Session :=
  { c with heartbeatTimer := if c.heartbeatTimer = .waiting then .idle else c.heartbeatTimer }

/-- The test of the timer's handler. -/
def timedOut (c : Session) (now : Nat) : Bool :=
  LoginConstants.Heartbeat.timeoutSeconds < (now - c.lastHeartbeat) / 1000000000

/-- The bytes that go out for a message, none when the packet is too large. Both
    sizes are cut to 16 bits; a message longer than its cut size is not copied
    into the buffer. -/
def frame (pktId : UInt16) (serialized : List UInt8) : Option (List UInt8) :=
  let payloadSize := UInt16.ofNat serialized.length
  let totalSize := UInt16.ofNat (PacketHeader.byteSize + payloadSize.toNat)
  if totalSize.toNat > maxPacketSize then none
  else
    some ((PacketHeader.bytes ⟨totalSize, pktId⟩ ++
      if serialized.length = payloadSize.toNat then serialized
      else List.replicate payloadSize.toNat 0).take totalSize.toNat)

end Session

end MMOServers.LoginServer
