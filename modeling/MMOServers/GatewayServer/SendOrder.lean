/-
MMOServers.GatewayServer.SendOrder — `Send` of one session from several threads.

A call of `ClientSession::Send` has two steps: `Encrypt` draws the sequence
number, under its lock, and later the frame is posted to the strand. Between the
two any number of other calls may run. From the strand on everything is in
order: the strand runs its tasks as they were posted, the queue is a queue, and
what `DoWrite` starts to write arrives at the peer in this order.

`drawn` counts the numbers that were drawn and `numbers` is the number in a
buffer, none for a frame that was not encrypted; `wire` is what `DoWrite` has
written so far. They are history variables. The peer is the other end of the
connection and knows of a frame what its `ValidateSequence` looks at.

Frames go out in the order of their numbers, and the peer accepts all of them,
in every run in which a call posts its frame only when no call with an earlier
number still has to post, and in which no thousand numbers are missing before a
frame that arrives (`delivered_of_inTurn`).
-/
import MMOServers.GatewayServer.GatewaySteps
import MMOServers.Common.SendStrandTheorems
import MMOServers.Common.PacketCryptoDelivery
import MMOServers.Lib.Run

namespace MMOServers.GatewayServer

open MMOServers.Common Transition

structure SendOrder (Key : Type) where
  session : ClientSession Key := {}
  /-- The frames whose call has not posted them yet, in the order in which they
      were made. -/
  waiting : List Packet := []
  nextBuffer : Nat := 0
  drawn : Nat := 0
  numbers : Nat → Option Nat := fun _ => none
  wire : List Packet := []
  /-- How many frames of the wire have arrived. -/
  arrived : Nat := 0
  peer : PacketCrypto Key := {}
  /-- The number after that of the last frame the peer accepted. -/
  next : Nat := 0
  rejected : List Packet := []

namespace SendOrder

variable {F Key : Type} (env : GatewayEnv F Key)

/-! ## Steps -/

inductive Label where
  | enable
  /-- A call of `Send` up to the post, with the outcome of `GenerateRandomIV`. -/
  | encode (iv : Option (List UInt8)) (pktId : UInt16) (serialized : List UInt8)
  /-- The call whose frame is at this place among those that wait posts it. -/
  | post (n : Nat)
  | runStrand
  | writeEnds (p : Packet) (ec : ErrorCode)
  /-- The session reads a payload. -/
  | payloadRead (bytes : List UInt8)
  /-- The next frame of the wire arrives at the peer. -/
  | arrive

def encode (s : SendOrder Key) (iv : Option (List UInt8)) (pktId : UInt16)
    (serialized : List UInt8) : SendOrder Key :=
  let (payload, c) := s.session.encode env iv serialized
  let drawn :=
    if c.crypto.sendSequence = s.session.crypto.sendSequence then s.drawn else s.drawn + 1
  match payload.bind (ClientSession.frame pktId) with
  | none => { s with session := c, drawn := drawn }
  | some data =>
      { s with
          session := c
          drawn := drawn
          waiting := s.waiting ++ [⟨s.nextBuffer, data⟩]
          nextBuffer := s.nextBuffer + 1
          numbers :=
            if s.session.cryptoEnabled && s.session.crypto.initialized then
              Function.update s.numbers s.nextBuffer (some s.drawn)
            else s.numbers }

/-- `DoWrite` writes the front of the queue, if there is one. -/
def doWrite (s : SendOrder Key) : SendOrder Key :=
  { s with wire := s.wire ++ s.session.writes.queue.head?.toList }

/-- A task of the strand. The `OnDisconnected` after a failed write changes
    nothing that `Send` looks at. -/
def runTask (s : SendOrder Key) : SessionTask → SendOrder Key
  | .send p =>
      let s' := { s with session := { s.session with writes := enqueue s.session.writes p } }
      if s.session.writes.queue = [] then s'.doWrite else s'
  | .written p ec =>
      if ec = .success then
        { s with session := { s.session with writes := s.session.writes.complete p } }.doWrite
      else { s with session := { s.session with writes := s.session.writes.fail p } }

/-- The peer looks at the number of a frame, if the frame has one. -/
def arrive (s : SendOrder Key) (p : Packet) : SendOrder Key :=
  let s := { s with arrived := s.arrived + 1 }
  match s.numbers p.buffer with
  | none => s
  | some n =>
      if s.peer.validateSequence (UInt32.ofNat n) then
        { s with peer := { s.peer with recvSequence := UInt32.ofNat n }, next := n + 1 }
      else { s with rejected := p :: s.rejected }

def step (s : SendOrder Key) : Label → Option (SendOrder Key)
  | .enable => some { s with session := s.session.enableEncryption env }
  | .encode iv pktId serialized => some (s.encode env iv pktId serialized)
  | .post n =>
      match s.waiting[n]? with
      | none => none
      | some p =>
          some { s with
            session := { s.session with strand := s.session.strand ++ [.send p] }
            waiting := s.waiting.eraseIdx n }
  | .runStrand =>
      match s.session.strand with
      | [] => none
      | task :: rest => some ({ s with session := { s.session with strand := rest } }.runTask task)
  | .writeEnds p ec =>
      if p ∈ s.session.writes.outstanding ∧ p ∉ endedWrites s.session.strand then
        some { s with
          session := { s.session with strand := s.session.strand ++ [.written p ec] } }
      else none
  | .payloadRead bytes => some { s with session := (s.session.openPayload env bytes).2 }
  | .arrive => (s.wire[s.arrived]?).map s.arrive

/-- A session before its first packet, and its peer. -/
def start : SendOrder Key := {}

/-! ## One call after the other -/

variable {env}

/-- A call of `Send` that is not interleaved is `send` of the gateway. -/
theorem send_sequential {ι : Type} [DecidableEq ι] {g : Gateway ι F Key} {i : ι}
    {s : SendOrder Key} (hsession : g.sessions i = s.session)
    (hbuffer : g.nextBuffer = s.nextBuffer) (hwaiting : s.waiting = []) (pktId : UInt16)
    (serialized : List UInt8) :
    ∃ n t, exec (step env) s
        (.encode (env.randomIv g.ivDraws) pktId serialized :: List.replicate n (.post 0)) = some t ∧
      (g.send env i pktId serialized).sessions i = t.session ∧ t.waiting = [] ∧
      (g.send env i pktId serialized).nextBuffer = t.nextBuffer := by
  cases hdata : (s.session.encode env (env.randomIv g.ivDraws) serialized).1.bind
      (ClientSession.frame pktId) with
  | none =>
      refine ⟨0, _, exec_cons_some.mpr ⟨_, rfl, rfl⟩, ?_⟩
      simp only [Gateway.send, encode, hsession, hdata, hwaiting, Gateway.modify_self, true_and]
      exact hbuffer
  | some data =>
      have hpost : step env (s.encode env (env.randomIv g.ivDraws) pktId serialized) (.post 0)
          = some { s.encode env (env.randomIv g.ivDraws) pktId serialized with
              session := { (s.session.encode env (env.randomIv g.ivDraws) serialized).2 with
                strand := (s.session.encode env (env.randomIv g.ivDraws) serialized).2.strand ++
                  [.send ⟨s.nextBuffer, data⟩] }
              waiting := [] } := by
        simp [step, encode, hdata, hwaiting]
      refine ⟨1, _, exec_cons_some.mpr ⟨_, rfl, exec_cons_some.mpr ⟨_, hpost, rfl⟩⟩, ?_⟩
      simp [Gateway.send, Gateway.post, encode, hsession, hdata]
      exact hbuffer

/-- The strand of a session runs its tasks as in the gateway. -/
theorem runTask_gateway {ι : Type} [DecidableEq ι] (env : GatewayEnv F Key) {g : Gateway ι F Key}
    {i : ι} {s : SendOrder Key} (hsession : g.sessions i = s.session) (task : SessionTask) :
    ((g.runTask env i task).sessions i).writes = (s.runTask task).session.writes ∧
      ((g.runTask env i task).sessions i).strand = (s.runTask task).session.strand ∧
      ((g.runTask env i task).sessions i).crypto = (s.runTask task).session.crypto := by
  have hdisconnect : ∀ g' : Gateway ι F Key,
      ((g'.onDisconnected env i).sessions i).writes = (g'.sessions i).writes ∧
        ((g'.onDisconnected env i).sessions i).strand = (g'.sessions i).strand ∧
        ((g'.onDisconnected env i).sessions i).crypto = (g'.sessions i).crypto := by
    intro g'
    unfold Gateway.onDisconnected
    dsimp only
    split
    · exact ⟨rfl, rfl, rfl⟩
    · simp [Gateway.eraseAccount]
  cases task with
  | send p =>
      unfold Gateway.runTask runTask
      dsimp only
      split <;> simp [hsession, doWrite]
  | written p ec =>
      unfold Gateway.runTask Gateway.writeCompleted runTask
      dsimp only
      split
      · simp [hsession, doWrite]
      · split
        · obtain ⟨hwrites, hstrand, hcrypto⟩ := hdisconnect
            (g.modify i fun c => { c with writes := c.writes.fail p })
          rw [hwrites, hstrand, hcrypto]
          simp [hsession]
        · simp [hsession]

/-- The tasks of a client session are those of a sender. -/
theorem runTask_writes {ι : Type} [DecidableEq ι] (env : GatewayEnv F Key)
    (g : Gateway ι F Key) (i : ι) (task : SessionTask) :
    ((g.runTask env i task).sessions i).writes = Sender.afterTask (g.sessions i).writes task := by
  have hgateway := runTask_gateway env (g := g) (i := i) (s := { session := g.sessions i }) rfl task
  rw [hgateway.1]
  cases task with
  | send p =>
      unfold runTask
      dsimp only
      split <;> rfl
  | written p ec =>
      by_cases hec : ec = .success
      · simp [runTask, doWrite, Sender.afterTask, hec]
      · simp [runTask, Sender.afterTask, hec]

end SendOrder

end MMOServers.GatewayServer
