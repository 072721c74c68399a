/-
MMOServers.Common.SendStrand — how the server sessions send.

`Send` of a session copies the packet into a buffer and posts a task to
`strand_`; the task enqueues the packet and starts a write when the queue was
empty. The completion handler of a write is a task of the same strand. The
sessions differ in what they do before the task is posted and when a write
fails.
-/
import MMOServers.Common.PacketHeader
import MMOServers.Common.NetworkErrorHandler
import MMOServers.Lib.WriteQueue

namespace MMOServers.Common

/-- A task of a session's `strand_`. -/
inductive SessionTask where
  | send (p : Packet)
  | written (p : Packet) (ec : ErrorCode)
  deriving DecidableEq

/-- The writes whose completion handler is among the tasks. -/
def endedWrites (tasks : List SessionTask) : List Packet :=
  tasks.filterMap fun
    | .written p _ => some p
    | _ => none

/-- `GameConstants::Network::SEND_QUEUE_MAX_SIZE`. -/
def sendQueueMaxSize : Nat := 100000

/-- The bytes that go out from a buffer of the pool, none when the packet is too
    large. Both sizes are cut to 16 bits; a message longer than its cut size is not
    copied into the buffer. -/
def pooledFrame (pktId : UInt16) (serialized : List UInt8) : Option (List UInt8) :=
  let payloadSize := UInt16.ofNat serialized.length
  let totalSize := UInt16.ofNat (PacketHeader.byteSize + payloadSize.toNat)
  if totalSize.toNat > maxPacketSize then none
  else
    some ((PacketHeader.bytes ⟨totalSize, pktId⟩ ++
      if serialized.length = payloadSize.toNat then serialized
      else List.replicate payloadSize.toNat 0).take totalSize.toNat)

/-- The task `Send` posts. -/
def enqueue (writes : WriteQueue Packet) (p : Packet) : WriteQueue Packet :=
  if writes.queue.length > sendQueueMaxSize then writes else writes.push p

end MMOServers.Common
