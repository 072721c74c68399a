/-
MMOServers.Network.ReconnectingConnection — the connections that reconnect.

GatewayServer's `GameConnection` and LoginServer's `WorldConnection` are one
class written twice. They differ in the test with which `Send` drops a packet,
in how a packet is laid out in its buffer and in the header sizes `ReadHeader`
goes on with; these differences are a `Profile`, everything else is shared.

Tasks posted to `strand_` run one at a time in the order they were posted, and
the completion handler of a write is such a task, posted when the write ends.
`ScheduleRetry` posts the task that clears the queue and only afterwards closes
the socket. Outside the strand these are two steps (`scheduleRetry`,
`closeSocket`) between which other threads run; a failed write calls it on the
strand, where nothing else of the strand can come in between. `Send` likewise
tests the connection in one step and posts its packet in another.

A packet is identified by its buffer, as the `shared_ptr` in `send_queue_` is.
`pops` records every successful completion with the packet it popped.
-/
import MMOServers.Common.PacketHeader
import MMOServers.Lib.WriteQueue

namespace MMOServers.Network

open MMOServers.Common

/-! ## What the two classes do differently -/

structure Profile where
  /-- The test of `Send`, from `connected_` and `socket_.is_open()`. -/
  maySend : Bool → Bool → Bool
  /-- The buffer `Send` fills for a serialized message, none if it is dropped. -/
  frame : UInt16 → List UInt8 → Option (List UInt8)
  /-- Whether `ReadHeader` goes on with a header of this size. -/
  acceptsSize : UInt16 → Bool

/-- `GameConnection`. Sizes are cut to 16 bits before the check, and
    `SerializeToArray` leaves the buffer alone when the message is longer than
    the size it is given. -/
def gameConnection : Profile where
  maySend _ isOpen := isOpen
  frame pktId payload :=
    let payloadSize := UInt16.ofNat payload.length
    let totalSize := UInt16.ofNat (PacketHeader.byteSize + payloadSize.toNat)
    if totalSize.toNat > maxPacketSize then none
    else
      some ((PacketHeader.bytes ⟨totalSize, pktId⟩) ++
        if payload.length = payloadSize.toNat then payload
        else List.replicate payloadSize.toNat 0)
  acceptsSize size := PacketHeader.byteSize ≤ size.toNat && size.toNat ≤ maxPacketSize

/-- `WorldConnection`. There is no size check; the bytes that go out are the
    first `header.size` of what was copied. -/
def worldConnection : Profile where
  maySend connected isOpen := connected && isOpen
  frame pktId payload :=
    let size := UInt16.ofNat (PacketHeader.byteSize + payload.length)
    some ((PacketHeader.bytes ⟨size, pktId⟩ ++ payload).take size.toNat)
  acceptsSize _ := true

/-! ## State -/

/-- A task of `strand_`. -/
inductive StrandTask where
  | send (p : Packet)
  | clear
  | written (p : Packet) (ok : Bool)
  deriving DecidableEq

structure Connection where
  isOpen : Bool := false
  connected : Bool := false
  writes : WriteQueue Packet := {}
  /-- Tasks posted to `strand_`, the oldest first. -/
  strand : List StrandTask := []
  connects : Nat := 0
  headerReads : Nat := 0
  payloadReads : Nat := 0
  /-- Calls of `ScheduleRetry` that have posted the clearing task and not yet
      closed the socket. -/
  closing : Nat := 0
  timerArmed : Bool := false
  /-- Timer handlers due to run. -/
  timerFired : Nat := 0
  nextBuffer : Nat := 0
  /-- Packets of `Send` calls that have passed the test and not yet posted. -/
  sending : List Packet := []
  /-- Successful completions, each with the packet that was popped. -/
  pops : List (Packet × Option Packet) := []

namespace Connection

/-! ## Reconnecting -/

/-- `ScheduleRetry` up to the task it posts. -/
def scheduleRetry (c : Connection) : Connection :=
  { c with connected := false, strand := c.strand ++ [.clear], closing := c.closing + 1 }

/-- The rest of `ScheduleRetry`: the socket is closed and the timer set. -/
def closeSocket (c : Connection) : Connection :=
  { c with isOpen := false, timerArmed := true, closing := c.closing - 1 }

/-- `DoConnect`. Resolving the address may throw. -/
def doConnect (c : Connection) (resolves : Bool) : Connection :=
  if resolves then { c with isOpen := true, connects := c.connects + 1 }
  else c.scheduleRetry

/-- The connection after `Connect`. -/
def start (resolves : Bool) : Connection := doConnect {} resolves

/-! ## Sending -/

/-- `Send` up to the task it posts: the test and the copy into a buffer. -/
def send (profile : Profile) (c : Connection) (pktId : UInt16) (payload : List UInt8) :
    Connection :=
  if !profile.maySend c.connected c.isOpen then c
  else
    match profile.frame pktId payload with
    | none => c
    | some data =>
        { c with sending := c.sending ++ [⟨c.nextBuffer, data⟩]
                 nextBuffer := c.nextBuffer + 1 }

/-- Run one task of the strand. -/
def runTask (c : Connection) : StrandTask → Connection
  | .send p => { c with writes := c.writes.push p }
  | .clear => { c with writes := c.writes.clear }
  | .written p true =>
      { c with pops := c.pops ++ [(p, c.writes.queue.head?)], writes := c.writes.complete p }
  | .written p false => closeSocket (scheduleRetry { c with writes := c.writes.fail p })

/-! ## Steps -/

inductive Event where
  | send (pktId : UInt16) (payload : List UInt8)
  | post (p : Packet)
  | connectDone (ok : Bool)
  | headerRead (size : UInt16)
  | payloadRead
  | headerFails
  | payloadFails
  | closeSocket
  | writeEnds (p : Packet) (ok : Bool)
  | runStrand
  | timerExpires
  | retry (resolves : Bool)

/-- The writes whose completion handler is among the tasks. -/
def endedWrites (tasks : List StrandTask) : List Packet :=
  tasks.filterMap fun
    | .written p _ => some p
    | _ => none

def step (profile : Profile) (c : Connection) : Event → Option Connection
  | .send pktId payload => some (c.send profile pktId payload)
  | .post p =>
      if p ∈ c.sending then
        some { c with sending := c.sending.erase p, strand := c.strand ++ [.send p] }
      else none
  | .connectDone ok =>
      if c.connects = 0 then none
      else
        let c := { c with connects := c.connects - 1 }
        if ok then some { c with connected := true, headerReads := c.headerReads + 1 }
        else some c.scheduleRetry
  | .headerRead size =>
      if c.headerReads = 0 then none
      else
        let c := { c with headerReads := c.headerReads - 1 }
        -- a size out of range ends the read loop and nothing else
        if !profile.acceptsSize size then some c
        else if PacketHeader.payloadSize size = 0 then
          some { c with headerReads := c.headerReads + 1 }
        else some { c with payloadReads := c.payloadReads + 1 }
  | .payloadRead =>
      if c.payloadReads = 0 then none
      else some { c with payloadReads := c.payloadReads - 1, headerReads := c.headerReads + 1 }
  | .headerFails =>
      if c.headerReads = 0 then none
      else some { c with headerReads := c.headerReads - 1 }.scheduleRetry
  | .payloadFails =>
      if c.payloadReads = 0 then none
      else some { c with payloadReads := c.payloadReads - 1 }.scheduleRetry
  | .closeSocket => if c.closing = 0 then none else some c.closeSocket
  | .writeEnds p ok =>
      if p ∈ c.writes.outstanding ∧ p ∉ endedWrites c.strand then
        some { c with strand := c.strand ++ [.written p ok] }
      else none
  | .runStrand =>
      match c.strand with
      | [] => none
      | task :: rest => some (runTask { c with strand := rest } task)
  | .timerExpires =>
      if c.timerArmed then some { c with timerArmed := false, timerFired := c.timerFired + 1 }
      else none
  | .retry resolves =>
      if c.timerFired = 0 then none
      else some ({ c with timerFired := c.timerFired - 1 }.doConnect resolves)

/-- What a step can be. -/
inductive Stepped (profile : Profile) (c : Connection) : Event → Connection → Prop where
  | send (pktId : UInt16) (payload : List UInt8) :
      Stepped profile c (.send pktId payload) (c.send profile pktId payload)
  | post {p : Packet} (sending : p ∈ c.sending) :
      Stepped profile c (.post p)
        { c with sending := c.sending.erase p, strand := c.strand ++ [.send p] }
  | connects (connecting : c.connects ≠ 0) :
      Stepped profile c (.connectDone true)
        { c with connects := c.connects - 1, connected := true, headerReads := c.headerReads + 1 }
  | connectFails (connecting : c.connects ≠ 0) :
      Stepped profile c (.connectDone false)
        (scheduleRetry { c with connects := c.connects - 1 })
  | headerStops {size : UInt16} (reading : c.headerReads ≠ 0)
      (rejected : profile.acceptsSize size = false) :
      Stepped profile c (.headerRead size) { c with headerReads := c.headerReads - 1 }
  | headerAlone {size : UInt16} (reading : c.headerReads ≠ 0)
      (accepted : profile.acceptsSize size = true) (empty : PacketHeader.payloadSize size = 0) :
      Stepped profile c (.headerRead size) { c with headerReads := c.headerReads - 1 + 1 }
  | headerRead {size : UInt16} (reading : c.headerReads ≠ 0)
      (accepted : profile.acceptsSize size = true) (nonempty : PacketHeader.payloadSize size ≠ 0) :
      Stepped profile c (.headerRead size)
        { c with headerReads := c.headerReads - 1, payloadReads := c.payloadReads + 1 }
  | payloadRead (reading : c.payloadReads ≠ 0) :
      Stepped profile c .payloadRead
        { c with payloadReads := c.payloadReads - 1, headerReads := c.headerReads + 1 }
  | headerFails (reading : c.headerReads ≠ 0) :
      Stepped profile c .headerFails (scheduleRetry { c with headerReads := c.headerReads - 1 })
  | payloadFails (reading : c.payloadReads ≠ 0) :
      Stepped profile c .payloadFails (scheduleRetry { c with payloadReads := c.payloadReads - 1 })
  | closeSocket (closing : c.closing ≠ 0) : Stepped profile c .closeSocket c.closeSocket
  | writeEnds {p : Packet} (ok : Bool) (outstanding : p ∈ c.writes.outstanding)
      (running : p ∉ endedWrites c.strand) :
      Stepped profile c (.writeEnds p ok) { c with strand := c.strand ++ [.written p ok] }
  | runStrand {task : StrandTask} {rest : List StrandTask} (strand : c.strand = task :: rest) :
      Stepped profile c .runStrand (runTask { c with strand := rest } task)
  | timerExpires (armed : c.timerArmed = true) :
      Stepped profile c .timerExpires
        { c with timerArmed := false, timerFired := c.timerFired + 1 }
  | retry (resolves : Bool) (fired : c.timerFired ≠ 0) :
      Stepped profile c (.retry resolves)
        (doConnect { c with timerFired := c.timerFired - 1 } resolves)

theorem step_inv {profile : Profile} {c c' : Connection} {e : Event}
    (h : step profile c e = some c') : Stepped profile c e c' := by
  cases e with
  | send pktId payload => exact Option.some.inj h ▸ .send pktId payload
  | post p =>
      simp only [step] at h
      split at h
      · rename_i hp
        exact Option.some.inj h ▸ .post hp
      · cases h
  | connectDone ok =>
      simp only [step] at h
      split at h
      · cases h
      · rename_i hconnects
        cases ok with
        | true => exact Option.some.inj h ▸ .connects hconnects
        | false => exact Option.some.inj h ▸ .connectFails hconnects
  | headerRead size =>
      simp only [step] at h
      split at h
      · cases h
      · rename_i hreads
        cases hsize : profile.acceptsSize size with
        | false =>
            rw [hsize, if_pos (by simp)] at h
            exact Option.some.inj h ▸ .headerStops hreads hsize
        | true =>
            rw [hsize, if_neg (by simp)] at h
            split at h
            · rename_i hempty
              exact Option.some.inj h ▸ .headerAlone hreads hsize hempty
            · rename_i hempty
              exact Option.some.inj h ▸ .headerRead hreads hsize hempty
  | payloadRead =>
      simp only [step] at h
      split at h
      · cases h
      · rename_i hreads
        exact Option.some.inj h ▸ .payloadRead hreads
  | headerFails =>
      simp only [step] at h
      split at h
      · cases h
      · rename_i hreads
        exact Option.some.inj h ▸ .headerFails hreads
  | payloadFails =>
      simp only [step] at h
      split at h
      · cases h
      · rename_i hreads
        exact Option.some.inj h ▸ .payloadFails hreads
  | closeSocket =>
      simp only [step] at h
      split at h
      · cases h
      · rename_i hclosing
        exact Option.some.inj h ▸ .closeSocket hclosing
  | writeEnds p ok =>
      simp only [step] at h
      split at h
      · rename_i hp
        exact Option.some.inj h ▸ .writeEnds ok hp.1 hp.2
      · cases h
  | runStrand =>
      simp only [step] at h
      split at h
      · cases h
      · rename_i task rest hstrand
        exact Option.some.inj h ▸ .runStrand hstrand
  | timerExpires =>
      simp only [step] at h
      split at h
      · rename_i harmed
        exact Option.some.inj h ▸ .timerExpires harmed
      · cases h
  | retry resolves =>
      simp only [step] at h
      split at h
      · cases h
      · rename_i hfired
        exact Option.some.inj h ▸ .retry resolves hfired

end Connection

end MMOServers.Network
