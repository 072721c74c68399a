/-
MMOServers.Servers.Realm — a game server and its gateways.

Any number of gateways, each with a connection to the game server or without
one. A connection is made anew after a break, so connections are numbered; the
packets on a connection, and those that `GameConnection` has queued for it, are
lists with the oldest first. What waits anywhere may be lost at any time, in part
or as a whole, and a queue may outlive the connection it was filled for. What
clients send, what the world server sends and when the monsters move is part of
the label.

Bytes stay in the order in which they are handed to the socket: two writes at one
time are a matter of `MMOServers.Network.ReconnectingConnection`.

A message is framed as `Send` does it, with its size cut to 16 bits and, when
that makes it too short, with the bytes that the buffer of the pool still held.
The buffers are part of the label; `Uncut` says that no size is cut.

`shown` is a history variable: the chat lines that a gateway has handed to its
clients, the oldest first.
-/
import MMOServers.GameServer.ChatRelay
import MMOServers.GatewayServer.BroadcastTheorems
import MMOServers.Network.SendBuffer
import MMOServers.WorldServer.WorldContext

namespace MMOServers.Servers

open MMOServers.Common MMOServers.GameServer MMOServers.GatewayServer MMOServers.Network

/-- The libraries of the servers. -/
structure RealmEnv (K Key : Type) where
  game : GameEnv K
  gateway : GatewayEnv K Key
  serializeToGateway : ToGateway K → List UInt8

/-- Protobuf: a chat message that was serialized does not parse to another one. -/
structure RealmEnv.Faithful {K Key : Type} (env : RealmEnv K Key) : Prop where
  chatReq : ∀ a msg req,
    env.game.parseChatReq (env.gateway.serializeToGame (.chatReq a msg)) = some req →
      req = ⟨a, msg⟩
  chatRes : ∀ m m',
    env.gateway.parseChatRes (env.serializeToGateway (.chatRes m)) = some m' → m' = m

/-- The packet id a message to a gateway is sent under. -/
def pktIdOf {K : Type} : ToGateway K → UInt16
  | .moveRes _ => PacketId.gameGatewayMoveRes
  | .attackRes _ => PacketId.gameGatewayAttackRes
  | .chatRes _ => PacketId.gameGatewayChatRes
  | .tokenNotify _ => PacketId.gameGatewayTokenNotify

/-- What the other end reads of a frame; one without a whole header is no packet. -/
def packetOf (pktId : UInt16) (frame : List UInt8) : Option S2SPacket :=
  if frame.length < PacketHeader.byteSize then none
  else some ⟨pktId, frame.drop PacketHeader.byteSize⟩

structure Realm (ι K Key : Type) where
  game : GameContext K Nat
  gateways : Nat → Gateway ι K Key := fun _ => Gateway.start
  /-- The connection of a gateway. -/
  connection : Nat → Option Nat := fun _ => none
  /-- How many connections there have been. -/
  connections : Nat := 0
  gatewaySessions : Nat → Bool := fun _ => false
  /-- What a gateway has handed to its `GameConnection`. -/
  queued : Nat → List S2SPacket := fun _ => []
  toGame : Nat → List S2SPacket := fun _ => []
  toGateway : Nat → List S2SPacket := fun _ => []
  shown : Nat → List ChatLine := fun _ => []

namespace Realm

variable {ι K Key : Type} (env : RealmEnv K Key)

/-! ## Gateways -/

/-- What has been added to a history, the oldest first. -/
def newEvents (old new : Gateway ι K Key) : List (Event ι K) :=
  (new.trace.take (new.trace.length - old.trace.length)).reverse

/-- The message that an event hands to the game connection. -/
def messageOf : Event ι K → Option (ToGame K)
  | .forwarded _ m => some m
  | _ => none

/-- `GameConnection::Send` of a message. -/
def packetToGame (m : ToGame K) : Option S2SPacket :=
  (Network.gameConnection.frame m.pktId (env.gateway.serializeToGame m)).bind (packetOf m.pktId)

def gatewayStepped (s : Realm ι K Key) (w : Nat) (gateway : Gateway ι K Key) : Realm ι K Key :=
  { s with
      gateways := Function.update s.gateways w gateway
      queued := Function.update s.queued w
        (s.queued w ++ ((newEvents (s.gateways w) gateway).filterMap messageOf).filterMap
          (packetToGame env)) }

/-- The chat line that a packet of the game server is. -/
def chatLineOf (packet : S2SPacket) : Option ChatLine :=
  if packet.id = PacketId.gameGatewayChatRes then
    (env.gateway.parseChatRes packet.payload).map fun res => ⟨res.accountId, res.msg⟩
  else none

/-! ## The game server -/

/-- The packet that a session gets of a message, from the buffer that its `Send`
    acquires. -/
def packetFor (s : Realm ι K Key) (c : Nat) (buffer : SendBuffer) :
    Outgoing K Nat → Option S2SPacket
  | .send gw m =>
      if gw = c then
        (pooledSend buffer (pktIdOf m) (env.serializeToGateway m)).bind fun p =>
          packetOf (pktIdOf m) p.frame
      else none
  | .broadcast m =>
      if s.gatewaySessions c then
        (pooledSend buffer (pktIdOf m) (env.serializeToGateway m)).bind fun p =>
          packetOf (pktIdOf m) p.frame
      else none

/-- A session has read a packet of its gateway. -/
def gameReads (s : Realm ι K Key) (c : Nat) (rest : List S2SPacket) : Realm ι K Key :=
  { s with toGame := Function.update s.toGame c rest }

/-- A task of the game server has run. `buffers c n` is what `Send` number `n` of the
    task acquires for the session `c`. -/
def gameStepped (s : Realm ι K Key) (buffers : Nat → Nat → SendBuffer)
    (game : GameContext K Nat) : Realm ι K Key :=
  { s with
      game := game
      toGateway := fun c => s.toGateway c ++
        (game.sent.reverse.zipIdx.filterMap fun o => s.packetFor env c (buffers c o.2) o.1) }

/-! ## Connections -/

/-- A place where packets wait. -/
inductive Way where
  | queued (w : Nat)
  | toGame (c : Nat)
  | toGateway (c : Nat)

/-- A new connection, accepted by the game server. -/
def connect (s : Realm ι K Key) (w : Nat) : Realm ι K Key :=
  { s with
      connection := Function.update s.connection w (some s.connections)
      connections := s.connections + 1
      gatewaySessions := Function.update s.gatewaySessions s.connections true }

def loses (s : Realm ι K Key) (n : Nat) : Way → Realm ι K Key
  | .queued w => { s with queued := Function.update s.queued w ((s.queued w).eraseIdx n) }
  | .toGame c => { s with toGame := Function.update s.toGame c ((s.toGame c).eraseIdx n) }
  | .toGateway c =>
      { s with toGateway := Function.update s.toGateway c ((s.toGateway c).eraseIdx n) }

/-! ## Steps -/

inductive Label (ι K : Type) where
  | gateway (w : Nat) (label : Gateway.Label ι)
  | connect (w : Nat)
  | disconnect (w : Nat)
  /-- `GameConnection` writes its oldest packet. -/
  | transmits (w : Nat)
  /-- The packet with this number is lost. -/
  | loses (way : Way) (n : Nat)
  | gameReceives (c : Nat) (order : IterationOrder) (buffers : Nat → Nat → SendBuffer)
  /-- The session is taken out of `gatewaySessions`. -/
  | sessionEnds (c : Nat)
  | game (label : GameContext.Label K Nat) (buffers : Nat → Nat → SendBuffer)
  | gatewayReceives (w : Nat)

variable [DecidableEq ι]

/-- A packet of the game server arrives at a gateway. -/
def gatewayReceives (s : Realm ι K Key) (w c : Nat) (packet : S2SPacket)
    (rest : List S2SPacket) : Realm ι K Key :=
  { s with
      gateways := Function.update s.gateways w
        ((s.gateways w).gameDispatch env.gateway packet.id packet.payload)
      toGateway := Function.update s.toGateway c rest
      shown := Function.update s.shown w (s.shown w ++ (chatLineOf env packet).toList) }

variable [Field K] [LinearOrder K] [FloorRing K] [HasSqrt K]

def step (s : Realm ι K Key) : Label ι K → Option (Realm ι K Key)
  | .gateway _ (.gamePacket _ _) => none
  | .gateway w label =>
      (Gateway.step env.gateway (s.gateways w) label).map (s.gatewayStepped env w)
  | .connect w => if s.connection w = none then some (s.connect w) else none
  | .disconnect w => some { s with connection := Function.update s.connection w none }
  | .transmits w =>
      match s.connection w, s.queued w with
      | some c, packet :: rest =>
          some { s with
                   queued := Function.update s.queued w rest
                   toGame := Function.update s.toGame c (s.toGame c ++ [packet]) }
      | _, _ => none
  | .loses way n => some (s.loses n way)
  | .gameReceives c order buffers =>
      match s.toGame c with
      | [] => none
      | packet :: rest =>
          some ((s.gameReads c rest).gameStepped env buffers
            (GameContext.dispatch env.game { s.game with sent := [] } c packet.id packet.payload
              order))
  | .sessionEnds c =>
      some { s with gatewaySessions := Function.update s.gatewaySessions c false }
  | .game (.packet _ _ _ _) _ => none
  | .game label buffers =>
      (GameContext.step env.game { s.game with sent := [] } label).map
        (s.gameStepped env buffers)
  | .gatewayReceives w =>
      match s.connection w with
      | none => none
      | some c =>
          match s.toGateway c with
          | [] => none
          | packet :: rest => some (s.gatewayReceives env w c packet rest)

/-- What a step can be. -/
inductive Stepped (s : Realm ι K Key) : Label ι K → Realm ι K Key → Prop where
  | gateway {w : Nat} {label : Gateway.Label ι} {gateway : Gateway ι K Key}
      (own : ∀ id payload, label ≠ .gamePacket id payload)
      (stepped : Gateway.step env.gateway (s.gateways w) label = some gateway) :
      Stepped s (.gateway w label) (s.gatewayStepped env w gateway)
  | connect {w : Nat} (alone : s.connection w = none) : Stepped s (.connect w) (s.connect w)
  | disconnect (w : Nat) : Stepped s (.disconnect w)
      { s with connection := Function.update s.connection w none }
  | transmits {w c : Nat} {packet : S2SPacket} {rest : List S2SPacket}
      (connected : s.connection w = some c) (waiting : s.queued w = packet :: rest) :
      Stepped s (.transmits w) { s with
        queued := Function.update s.queued w rest
        toGame := Function.update s.toGame c (s.toGame c ++ [packet]) }
  | loses (way : Way) (n : Nat) : Stepped s (.loses way n) (s.loses n way)
  | gameReceives {c : Nat} {packet : S2SPacket} {rest : List S2SPacket} (order : IterationOrder)
      (buffers : Nat → Nat → SendBuffer) (waiting : s.toGame c = packet :: rest) :
      Stepped s (.gameReceives c order buffers)
        ((s.gameReads c rest).gameStepped env buffers
          (GameContext.dispatch env.game { s.game with sent := [] } c packet.id packet.payload
            order))
  | sessionEnds (c : Nat) : Stepped s (.sessionEnds c)
      { s with gatewaySessions := Function.update s.gatewaySessions c false }
  | game {label : GameContext.Label K Nat} {game : GameContext K Nat}
      (buffers : Nat → Nat → SendBuffer)
      (own : ∀ gw id payload order, label ≠ .packet gw id payload order)
      (stepped : GameContext.step env.game { s.game with sent := [] } label = some game) :
      Stepped s (.game label buffers) (s.gameStepped env buffers game)
  | gatewayReceives {w c : Nat} {packet : S2SPacket} {rest : List S2SPacket}
      (connected : s.connection w = some c) (waiting : s.toGateway c = packet :: rest) :
      Stepped s (.gatewayReceives w) (s.gatewayReceives env w c packet rest)

variable {env}

theorem step_inv {s s' : Realm ι K Key} {label : Label ι K} (h : step env s label = some s') :
    Stepped env s label s' := by
  cases label with
  | gateway w label =>
      cases label with
      | gamePacket id payload => cases h
      | _ =>
          simp only [step] at h
          obtain ⟨gateway, hgateway, rfl⟩ := Option.map_eq_some_iff.mp h
          exact .gateway (by simp) hgateway
  | connect w =>
      simp only [step] at h
      split at h
      · rename_i halone
        exact Option.some.inj h ▸ .connect halone
      · cases h
  | disconnect w => exact Option.some.inj h ▸ .disconnect w
  | transmits w =>
      simp only [step] at h
      split at h
      · rename_i c packet rest hconnected hwaiting
        exact Option.some.inj h ▸ .transmits hconnected hwaiting
      · cases h
  | loses way n => exact Option.some.inj h ▸ .loses way n
  | gameReceives c order buffers =>
      simp only [step] at h
      split at h
      · cases h
      · rename_i packet rest hwaiting
        exact Option.some.inj h ▸ .gameReceives order buffers hwaiting
  | sessionEnds c => exact Option.some.inj h ▸ .sessionEnds c
  | game label buffers =>
      cases label with
      | packet gw id payload order => cases h
      | _ =>
          simp only [step] at h
          obtain ⟨game, hgame, rfl⟩ := Option.map_eq_some_iff.mp h
          exact .game buffers (by simp) hgame
  | gatewayReceives w =>
      simp only [step] at h
      split at h
      · cases h
      · rename_i c hconnected
        split at h
        · cases h
        · rename_i packet rest hwaiting
          exact Option.some.inj h ▸ .gatewayReceives hconnected hwaiting

/-- All servers have just started. -/
def start (spawns : List (MonsterSpawn K)) : Realm ι K Key :=
  { game := GameContext.start spawns }

end Realm

end MMOServers.Servers
