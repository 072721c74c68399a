/-
MMOServers.Network.SendBufferPool — the buffers of `Send`, by reference.

All sessions of a server take their buffers from one pool. `Send` runs on any
thread: it takes a buffer, writes the packet into it, posts a task that holds a
copy of the `shared_ptr`, and its own copy goes when it returns. The task puts
its copy into the queue, `DoWrite` gives the address to `async_write`, and the
copy goes when the packet is popped, dropped, or cleared away after a failed
write. The deleter of the last copy gives the buffer back to the pool, or
deletes it if the pool does not take it.

Every call of `Send` makes one control block, and there are never more than two
copies, so a block says which of the two exist. An address that was deleted is
not used again.

Three things are history. A reference keeps the `frame` that its call wrote into
the buffer, `accepted` are the frames that tasks have put into the queue, and
`wire` are the bytes that were under the address when a write had ended.

A copy that goes past its buffer (`Overruns`) writes over what is behind it, so
what the buffers hold after it is part of the label of the step.
-/
import MMOServers.Network.SendBuffer
import MMOServers.Common.SendStrandTheorems

namespace MMOServers.Network

open MMOServers.Common

/-! ## The pool -/

/-- `class SendBufferPool`. `live` are the addresses of the buffers there are. -/
structure SendBufferPool where
  initialized : Bool := false
  pool : List Nat := []
  live : List Nat := []
  nextAddress : Nat := 0

namespace SendBufferPool

/-- `Initialize`. -/
def initializePool (s : SendBufferPool) (bufferCount : Nat) : SendBufferPool :=
  if s.initialized then s
  else
    let buffers := List.range' s.nextAddress bufferCount
    { initialized := true
      pool := s.pool ++ buffers
      live := s.live ++ buffers
      nextAddress := s.nextAddress + bufferCount }

/-- `Acquire`. -/
def acquire (s : SendBufferPool) : Nat × SendBufferPool :=
  match s.pool with
  | buf :: rest => (buf, { s with pool := rest })
  | [] =>
      (s.nextAddress,
        { s with live := s.live ++ [s.nextAddress], nextAddress := s.nextAddress + 1 })

/-- `Release`, with the outcome of `push`. -/
def release (s : SendBufferPool) (buf : Nat) (pushed : Bool) : SendBufferPool :=
  if pushed then { s with pool := s.pool ++ [buf] }
  else { s with live := s.live.erase buf }

end SendBufferPool

/-! ## Shared pointers -/

/-- A control block: the buffer, and which copies there are, `send_buf` of the call
    and the one that goes from the task to the queue. -/
structure Block where
  pointer : Nat
  inSend : Bool
  inSession : Bool

structure Buffers where
  pool : SendBufferPool := {}
  blocks : Nat → Option Block := fun _ => none
  nextBlock : Nat := 0

namespace Buffers

/-- The `shared_ptr` of a call of `Send`. -/
def acquire (s : Buffers) : Buffers :=
  { pool := s.pool.acquire.2
    blocks := Function.update s.blocks s.nextBlock (some ⟨s.pool.acquire.1, true, false⟩)
    nextBlock := s.nextBlock + 1 }

/-- A block without copies is gone, and its buffer is released. -/
def settle (s : Buffers) (b : Nat) (block : Block) (pushed : Bool) : Buffers :=
  if block.inSend || block.inSession then
    { s with blocks := Function.update s.blocks b (some block) }
  else
    { s with blocks := Function.update s.blocks b none
             pool := s.pool.release block.pointer pushed }

/-- The task gets its copy. -/
def share (s : Buffers) (b : Nat) : Buffers :=
  match s.blocks b with
  | none => s
  | some block =>
      { s with blocks := Function.update s.blocks b (some { block with inSession := true }) }

/-- `Send` returns. -/
def dropSend (s : Buffers) (b : Nat) (pushed : Bool) : Buffers :=
  match s.blocks b with
  | none => s
  | some block => s.settle b { block with inSend := false } pushed

/-- The copy of the task or of the queue goes. -/
def dropSession (s : Buffers) (b : Nat) (pushed : Bool) : Buffers :=
  match s.blocks b with
  | none => s
  | some block => s.settle b { block with inSession := false } pushed

end Buffers

/-! ## The sessions and the calls of Send -/

/-- An element of `send_queue_`, with the address that `async_write` is given. -/
structure BufferRef where
  block : Nat
  pointer : Nat
  totalSize : UInt16
  frame : List UInt8
  deriving DecidableEq

/-- The packet that was sent. -/
def BufferRef.packet (r : BufferRef) : Packet := ⟨r.block, r.frame⟩

/-- A call of `Send` that has its buffer. `written` is what it has written into it. -/
structure SendCall (ι : Type) where
  session : ι
  pktId : UInt16
  payload : List UInt8
  block : Nat
  pointer : Nat
  written : Option Posted := none
  posted : Bool := false

/-- What the call writes; `ClientSession` copies a payload that it has made
    before. -/
def packetIn (buffer : SendBuffer) (pktId : UInt16) (payload : List UInt8) :
    SendingSession → Option Posted
  | .clientSession => copiedSend buffer pktId payload
  | _ => pooledSend buffer pktId payload

/-- The message passes the test of its size and is copied past the end of the
    buffer. -/
def Overruns (kind : SendingSession) (length : Nat) : Prop :=
  match kind with
  | .clientSession => maxPacketSize - PacketHeader.byteSize < length ∧ ¬ Dropped length
  | _ => 65536 - PacketHeader.byteSize ≤ length ∧ length < 65536

instance (kind : SendingSession) (length : Nat) : Decidable (Overruns kind length) :=
  match kind with
  | .clientSession => inferInstanceAs (Decidable (_ ∧ ¬ _))
  | .gatewaySession | .serverSession | .loginSession => inferInstanceAs (Decidable (_ ∧ _))

structure BufferSystem (ι θ : Type) where
  buffers : Buffers := {}
  memory : Nat → SendBuffer := fun _ => .fresh
  calls : θ → Option (SendCall ι) := fun _ => none
  tasks : ι → List BufferRef := fun _ => []
  writes : ι → WriteQueue BufferRef := fun _ => {}
  accepted : ι → List Packet := fun _ => []
  wire : ι → List Packet := fun _ => []
  failed : ι → Bool := fun _ => false

namespace BufferSystem

variable {ι θ : Type} [DecidableEq ι] [DecidableEq θ] (kind : ι → SendingSession)

/-- What is under the address. -/
def view (s : BufferSystem ι θ) (r : BufferRef) : Packet :=
  ⟨r.block, (s.memory r.pointer).bytes.take r.totalSize.toNat⟩

/-! ## Steps -/

inductive Label (ι θ : Type) where
  | initializePool (bufferCount : Nat)
  /-- A call of `Send` gets a buffer, its packet not being too large. -/
  | acquire (t : θ) (i : ι) (pktId : UInt16) (payload : List UInt8)
  /-- The call writes into its buffer; `spilled` is what all the buffers hold after
      it if it writes past the end. -/
  | write (t : θ) (spilled : Nat → SendBuffer)
  | post (t : θ)
  | leave (t : θ) (pushed : Bool)
  | runTask (i : ι) (pushed : Bool)
  /-- A write ends; `pushed` are the outcomes for the blocks that go. -/
  | writeEnds (i : ι) (r : BufferRef) (ec : ErrorCode) (pushed : Nat → Bool)

/-- The copies in the queue go, one after the other. -/
def dropAll (buffers : Buffers) (pushed : Nat → Bool) (refs : List BufferRef) : Buffers :=
  refs.foldl (fun s r => s.dropSession r.block (pushed r.block)) buffers

/-- The test of the queue length, where there is one. -/
def takes (s : BufferSystem ι θ) (i : ι) : Bool :=
  match (kind i).queueLimit with
  | none => true
  | some limit => !((s.writes i).queue.length > limit)

def runTask (s : BufferSystem ι θ) (i : ι) (r : BufferRef) (pushed : Bool) :
    BufferSystem ι θ :=
  if s.takes kind i then
    { s with
        writes := Function.update s.writes i ((s.writes i).push r)
        accepted := Function.update s.accepted i (s.accepted i ++ [r.packet]) }
  else { s with buffers := s.buffers.dropSession r.block pushed }

/-- The completion handler of `DoWrite`. -/
def writeEnds (s : BufferSystem ι θ) (i : ι) (r : BufferRef) (ec : ErrorCode)
    (pushed : Nat → Bool) : BufferSystem ι θ :=
  if ec = .success then
    { s with
        buffers := dropAll s.buffers pushed (s.writes i).queue.head?.toList
        writes := Function.update s.writes i ((s.writes i).complete r)
        wire := Function.update s.wire i (s.wire i ++ [s.view r]) }
  else
    { s with
        buffers := dropAll s.buffers pushed (s.writes i).queue
        writes := Function.update s.writes i ((s.writes i).fail r)
        failed := Function.update s.failed i true }

def step (s : BufferSystem ι θ) : Label ι θ → Option (BufferSystem ι θ)
  | .initializePool bufferCount =>
      let pool := s.buffers.pool.initializePool bufferCount
      some { s with buffers := { s.buffers with pool := pool } }
  | .acquire t i pktId payload =>
      if (s.calls t).isNone ∧ (packetIn .fresh pktId payload (kind i)).isSome then
        some { s with
          buffers := s.buffers.acquire
          calls := Function.update s.calls t (some
            { session := i, pktId := pktId, payload := payload
              block := s.buffers.nextBlock, pointer := s.buffers.pool.acquire.1 }) }
      else none
  | .write t spilled =>
      match s.calls t with
      | none => none
      | some c =>
          if c.written.isSome then none
          else
            match packetIn (s.memory c.pointer) c.pktId c.payload (kind c.session) with
            | none => none
            | some p =>
                some { s with
                  memory :=
                    if h : p.memory.length = maxPacketSize then
                      Function.update s.memory c.pointer ⟨p.memory, h⟩
                    else spilled
                  calls := Function.update s.calls t (some { c with written := some p }) }
  | .post t =>
      match s.calls t with
      | none => none
      | some c =>
          match c.written, c.posted with
          | some p, false =>
              some { s with
                buffers := s.buffers.share c.block
                calls := Function.update s.calls t (some { c with posted := true })
                tasks := Function.update s.tasks c.session
                  (s.tasks c.session ++ [⟨c.block, c.pointer, p.totalSize, p.frame⟩]) }
          | _, _ => none
  | .leave t pushed =>
      match s.calls t with
      | none => none
      | some c =>
          if c.posted then
            some { s with
              buffers := s.buffers.dropSend c.block pushed
              calls := Function.update s.calls t none }
          else none
  | .runTask i pushed =>
      match s.tasks i with
      | [] => none
      | r :: rest =>
          some ({ s with tasks := Function.update s.tasks i rest }.runTask kind i r pushed)
  | .writeEnds i r ec pushed =>
      if r ∈ (s.writes i).outstanding then some (s.writeEnds i r ec pushed) else none

/-- A server before its first `Send`. -/
def start : BufferSystem ι θ := {}

end BufferSystem

end MMOServers.Network
